/-
  Scratchpad queries, of `src/tools.rs`: `run_guarded` around the engine, the two
  pagination modes, and the emitter of the scratchpad tools.

  * `nextCursor_scratchpadReply`, `continuationHint_mem_scratchpadReply`: which cursor and
    which hint the emitter hands out. It is a second copy of the GA emitter, and has no
    check that the page has rows.
  * `scratchpadQueryPage_eq_ok`: what a page is made of.
-/
import Ga4Mcp.Scratchpad.System
import Ga4Mcp.Tools.DuckRows
import Ga4Mcp.Tools.Projection
import Ga4Mcp.Tools.ReportArgs
import Ga4Mcp.Tools.Wrapping

namespace Ga4Mcp.Tools

open Ga4Mcp.Lib Ga4Mcp.SqlSafety Ga4Mcp.Scratchpad

/-- What the scratchpad tools use of the server. `openConnection` is the method of the
    session manager; `interruption` is the error of the time limit, when it ends the query. -/
structure ScratchpadServer where
  config : ScratchpadSessionConfig
  toolkit : Toolkit
  openConnection : Text → Except AnalyticsError Connection
  interruption : Option AnalyticsError

/-- `run_guarded` with the default hooks, which cannot be cancelled. -/
def runGuarded {α : Type} (server : ScratchpadServer) (sessionId sql : Text)
    (execute : Connection → Except AnalyticsError α) : Except AnalyticsError α := do
  guardSql server.config (Text.utf8 sql) server.toolkit
  let conn ← server.openConnection sessionId
  match server.interruption with
  | some err => .error err
  | none => execute conn

/-! ## Projections -/

/-- The result of a query, with hints and the way it was paged. -/
structure ScratchpadTabularProjection where
  rows : List JsonMap
  rowCountTotal : Nat
  columns : List ColumnMeta
  queryHints : List Text
  paginationMode : Text

/-- What is said about a window that was taken afterwards. -/
def inMemoryHint : Text := text "non-SELECT/WITH query used in-memory pagination after execution"

/-- The engine counts and pages. -/
def wrappedProjection (sql : Text) (offset pageSize : Nat) (conn : Connection) :
    Except AnalyticsError ScratchpadTabularProjection := do
  let rowCountTotal ← queryRowCount conn (wrapQueryForRowCount sql)
  let result ← executeDuckdbQueryRows conn (wrapQueryForPage sql offset pageSize)
  return ⟨result.2, rowCountTotal, result.1, [], text "wrapped_sql"⟩

/-- The whole result, then a window of it. -/
def inMemoryProjection (sql : Text) (offset pageSize : Nat) (conn : Connection) :
    Except AnalyticsError ScratchpadTabularProjection := do
  let result ← executeDuckdbQueryRows conn sql
  let rowCountTotal := result.2.length
  let rows := (result.2.drop offset).take pageSize
  let hints := if offset > 0 ∨ rowCountTotal > rows.length then [inMemoryHint] else []
  return ⟨rows, rowCountTotal, result.1, hints, text "in_memory"⟩

/-- The guarded query, paged in one way or the other. -/
def executeScratchpadProjection (server : ScratchpadServer) (sessionId sql : Text)
    (offset pageSize : Nat) : Except AnalyticsError ScratchpadTabularProjection :=
  runGuarded server sessionId sql fun conn =>
    if supportsWrappedPagination sql then wrappedProjection sql offset pageSize conn
    else inMemoryProjection sql offset pageSize conn

/-! ## The query -/

/-- The query hash of a statement in a session. -/
def scratchpadQueryHash (hasher : Text → UInt64) (toolName sessionId sql : Text) : Text :=
  stableQueryHash hasher (.ofFields [
    ("tool", .string toolName),
    ("session_id", .string (Text.trim sessionId)),
    ("sql", .string (trimSqlForSubquery sql))])

/-- Hints without repetitions. -/
def mergeQueryHints (defaults extras : List Text) : List Text :=
  extras.foldl (fun defaults hint => if hint ∈ defaults then defaults else defaults ++ [hint])
    defaults

/-- The arguments of `run_scratchpad_query_contract`. -/
structure ScratchpadQuery where
  toolName : Text
  sessionId : Text
  sql : Text
  controls : TabularControls
  sourceMeta : Option Json

/-- A page that is handed to the emitter. -/
structure ScratchpadPage where
  queryHash : Text
  offset : Nat
  pageSize : Nat
  projection : ScratchpadTabularProjection

/-- The checks, the query hash and the page window. -/
def prepareScratchpadQuery (hasher : Text → UInt64) (query : ScratchpadQuery) :
    Except AnalyticsError (Text × Nat × Nat) := do
  validateTabularControls query.controls.maxRows query.controls.maxCellChars query.controls.cursor
  let trimmedSql := Text.trim query.sql
  refuseIf trimmedSql.isEmpty (.invalidArgument (text "sql") (text "must not be empty"))
  let queryHash := scratchpadQueryHash hasher query.toolName query.sessionId trimmedSql
  let window ← resolveCursorWindow queryHash query.controls.cursor none query.controls.maxRows none
  return (queryHash, window)

/-- The page of a query. -/
def scratchpadQueryPage (hasher : Text → UInt64) (server : ScratchpadServer)
    (query : ScratchpadQuery) : Except AnalyticsError ScratchpadPage := do
  let prepared ← prepareScratchpadQuery hasher query
  let projection ← executeScratchpadProjection server query.sessionId (Text.trim query.sql)
    prepared.2.1 prepared.2.2
  return ⟨prepared.1, prepared.2.1, prepared.2.2, projection⟩

/-- The rows and columns of the page. -/
def ScratchpadPage.tabularProjection (page : ScratchpadPage) : GaTabularProjection :=
  ⟨page.projection.rows, page.projection.rowCountTotal, page.projection.columns, .null⟩

/-- The meta of the page, with its cursor and hints. -/
def scratchpadTabularMeta (query : ScratchpadQuery) (page : ScratchpadPage) : TabularMeta :=
  let tabularMeta := (projectPayloadForMode page.tabularProjection
    (query.controls.outputMode.getD .rows) query.controls.summaryOnly
    query.controls.maxCellChars).2
  let nextOffset := saturatingAdd page.offset tabularMeta.rowCountReturned
  let hints := mergeQueryHints (tabularMeta.queryHints.getD []) page.projection.queryHints
  { tabularMeta with
    queryHash := some page.queryHash
    nextCursor :=
      if nextOffset < page.projection.rowCountTotal then
        some (encodeCursor page.queryHash nextOffset)
      else none
    queryHints := if hints.isEmpty then none else some hints }

/-- `data` and `meta`. -/
def scratchpadReply (query : ScratchpadQuery) (page : ScratchpadPage) : Json × Json :=
  let payload := (projectPayloadForMode page.tabularProjection
    (query.controls.outputMode.getD .rows) query.controls.summaryOnly
    query.controls.maxCellChars).1
  let reply := (scratchpadTabularMeta query page).toJson.insertField (text "scratchpad")
    (.ofFields [
      ("session_id", .string (Text.trim query.sessionId)),
      ("pagination_mode", .string page.projection.paginationMode),
      ("query_sql_bytes", .ofNat (Text.len (Text.trim query.sql))),
      ("page_size", .ofNat page.pageSize),
      ("offset", .ofNat page.offset)])
  let reply := match query.sourceMeta with
    | some extra => reply.insertField (text "source") extra
    | none => reply
  (payload, reply)

def runScratchpadQueryContract (hasher : Text → UInt64) (server : ScratchpadServer)
    (query : ScratchpadQuery) : Except AnalyticsError (Json × Json) :=
  (scratchpadQueryPage hasher server query).map (scratchpadReply query)

/-! ## What the emitter hands out -/

section Emitter

variable (query : ScratchpadQuery) (page : ScratchpadPage)

/-- The fields that the emitter adds to `meta` are others than these. -/
theorem get_scratchpadReply {key : Text} (h : text "scratchpad" ≠ key) (h' : text "source" ≠ key) :
    (scratchpadReply query page).2.get key = (scratchpadTabularMeta query page).toJson.get key := by
  unfold scratchpadReply
  dsimp only
  cases query.sourceMeta with
  | none => rw [get_insertField h]
  | some extra => rw [get_insertField h', get_insertField h]

theorem nextCursor_scratchpadReply :
    nextCursor (scratchpadReply query page).2 =
      if saturatingAdd page.offset page.projection.rows.length < page.projection.rowCountTotal then
        some (encodeCursor page.queryHash
          (saturatingAdd page.offset page.projection.rows.length))
      else none := by
  rw [nextCursor, get_scratchpadReply query page (by decide) (by decide), ← nextCursor,
    nextCursor_toJson, scratchpadTabularMeta]
  dsimp only
  rw [rowCountReturned_projectPayload]
  rfl

theorem mem_mergeQueryHints {hint : Text} {extras : List Text} (h : hint ∉ extras)
    (defaults : List Text) : hint ∈ mergeQueryHints defaults extras ↔ hint ∈ defaults := by
  unfold mergeQueryHints
  induction extras generalizing defaults with
  | nil => rfl
  | cons extra extras ih =>
      obtain ⟨hne, hrest⟩ := List.ne_and_not_mem_of_not_mem_cons h
      rw [List.foldl_cons, ih hrest]
      split
      · rfl
      · rw [List.mem_append, List.mem_singleton, or_iff_left hne]

theorem continuationHint_mem_scratchpadReply (h : continuationHint ∉ page.projection.queryHints) :
    continuationHint ∈ queryHints (scratchpadReply query page).2 ↔
      page.projection.rows.length < page.projection.rowCountTotal := by
  have hhints : queryHints (scratchpadReply query page).2 =
      mergeQueryHints ((projectPayloadForMode page.tabularProjection
        (query.controls.outputMode.getD .rows) query.controls.summaryOnly
        query.controls.maxCellChars).2.queryHints.getD []) page.projection.queryHints := by
    rw [queryHints, get_scratchpadReply query page (by decide) (by decide), ← queryHints,
      queryHints_toJson, scratchpadTabularMeta]
    dsimp only
    split
    · next hempty => exact (List.isEmpty_iff.mp hempty).symm
    · rfl
  rw [hhints, mem_mergeQueryHints h, queryHints_projectPayload]
  change _ ↔ page.tabularProjection.rows.length < page.tabularProjection.rowCountTotal
  split
  · next hmore => exact iff_of_true (List.mem_singleton.mpr rfl) hmore
  · next hmore => exact iff_of_false (List.not_mem_nil) hmore

theorem rowCountReturned_scratchpadReply (hfits : page.projection.rows.length ≤ usizeMax) :
    rowCountReturned (scratchpadReply query page).2 = some page.projection.rows.length := by
  have hcount : (scratchpadTabularMeta query page).rowCountReturned =
      page.projection.rows.length :=
    rowCountReturned_projectPayload page.tabularProjection
      (query.controls.outputMode.getD .rows) query.controls.summaryOnly query.controls.maxCellChars
  rw [rowCountReturned, get_scratchpadReply query page (by decide) (by decide),
    ← rowCountReturned, rowCountReturned_toJson (by rwa [hcount]), hcount]

theorem scratchpadReply_data :
    (scratchpadReply query page).1 =
      if query.controls.summaryOnly then .null
      else payloadByMode (shownRows page.projection.rows query.controls.maxCellChars)
        page.projection.columns (query.controls.outputMode.getD .rows) :=
  rfl

end Emitter

/-! ## What a page tells -/

theorem prepareScratchpadQuery_eq_ok {hasher : Text → UInt64} {query : ScratchpadQuery}
    {prepared : Text × Nat × Nat} :
    prepareScratchpadQuery hasher query = .ok prepared ↔
      validateTabularControls query.controls.maxRows query.controls.maxCellChars
        query.controls.cursor = .ok () ∧
      ¬ (Text.trim query.sql).isEmpty ∧
      prepared.1 = scratchpadQueryHash hasher query.toolName query.sessionId (Text.trim query.sql) ∧
      resolveCursorOffset prepared.1 query.controls.cursor none = .ok prepared.2.1 ∧
      prepared.2.2 = resolvePageSize query.controls.maxRows none := by
  unfold prepareScratchpadQuery
  constructor
  · intro h
    obtain ⟨⟨⟩, hcontrols, h⟩ := bind_eq_ok.mp h
    obtain ⟨⟨⟩, hsql, h⟩ := bind_eq_ok.mp h
    obtain ⟨window, hwindow, h⟩ := bind_eq_ok.mp h
    obtain ⟨hoffset, hsize⟩ := resolveCursorWindow_eq_ok.mp hwindow
    rw [← pure_eq_ok.mp h]
    exact ⟨hcontrols, refuseIf_eq_ok.mp hsql, rfl, hoffset, hsize⟩
  · obtain ⟨hash, window⟩ := prepared
    rintro ⟨hcontrols, hsql, rfl, hoffset, hsize⟩
    exact bind_eq_ok.mpr ⟨(), hcontrols, bind_eq_ok.mpr ⟨(), refuseIf_eq_ok.mpr hsql,
      bind_eq_ok.mpr ⟨window, resolveCursorWindow_eq_ok.mpr ⟨hoffset, hsize⟩, rfl⟩⟩⟩

theorem scratchpadQueryPage_eq_ok {hasher : Text → UInt64} {server : ScratchpadServer}
    {query : ScratchpadQuery} {page : ScratchpadPage} :
    scratchpadQueryPage hasher server query = .ok page ↔
      prepareScratchpadQuery hasher query = .ok (page.queryHash, page.offset, page.pageSize) ∧
      executeScratchpadProjection server query.sessionId (Text.trim query.sql) page.offset
        page.pageSize = .ok page.projection := by
  unfold scratchpadQueryPage
  constructor
  · intro h
    obtain ⟨⟨hash, offset, size⟩, hprepared, h⟩ := bind_eq_ok.mp h
    obtain ⟨projection, hprojection, h⟩ := bind_eq_ok.mp h
    rw [← pure_eq_ok.mp h]
    exact ⟨hprepared, hprojection⟩
  · rintro ⟨hprepared, hprojection⟩
    exact bind_eq_ok.mpr ⟨_, hprepared, bind_eq_ok.mpr ⟨_, hprojection, rfl⟩⟩

theorem runGuarded_eq_ok {α : Type} {server : ScratchpadServer} {sessionId sql : Text}
    {execute : Connection → Except AnalyticsError α} {a : α} :
    runGuarded server sessionId sql execute = .ok a ↔
      ∃ conn, runGuarded server sessionId sql .ok = .ok conn ∧ execute conn = .ok a := by
  unfold runGuarded
  constructor
  · intro h
    obtain ⟨⟨⟩, hguard, h⟩ := bind_eq_ok.mp h
    obtain ⟨conn, hconn, h⟩ := bind_eq_ok.mp h
    cases hinterruption : server.interruption with
    | some err =>
        rw [hinterruption] at h
        cases h
    | none =>
        rw [hinterruption] at h
        exact ⟨conn, bind_eq_ok.mpr ⟨(), hguard, bind_eq_ok.mpr ⟨conn, hconn, rfl⟩⟩, h⟩
  · rintro ⟨conn, hrun, hexecute⟩
    obtain ⟨⟨⟩, hguard, hrun⟩ := bind_eq_ok.mp hrun
    obtain ⟨conn', hconn, hrun⟩ := bind_eq_ok.mp hrun
    refine bind_eq_ok.mpr ⟨(), hguard, bind_eq_ok.mpr ⟨conn', hconn, ?_⟩⟩
    cases hinterruption : server.interruption with
    | some err =>
        rw [hinterruption] at hrun
        cases hrun
    | none =>
        rw [hinterruption] at hrun
        cases hrun
        exact hexecute

/-- The hints of a projection do not speak of the cursor. -/
theorem continuationHint_not_mem_queryHints {server : ScratchpadServer} {sessionId sql : Text}
    {offset pageSize : Nat} {projection : ScratchpadTabularProjection}
    (h : executeScratchpadProjection server sessionId sql offset pageSize = .ok projection) :
    continuationHint ∉ projection.queryHints := by
  obtain ⟨conn, -, h⟩ := runGuarded_eq_ok.mp h
  have hne : continuationHint ∉ [inMemoryHint] := by decide
  split at h
  · obtain ⟨total, -, h⟩ := bind_eq_ok.mp h
    obtain ⟨result, -, h⟩ := bind_eq_ok.mp h
    rw [← pure_eq_ok.mp h]
    exact List.not_mem_nil
  · obtain ⟨result, -, h⟩ := bind_eq_ok.mp h
    rw [← pure_eq_ok.mp h]
    dsimp only
    split
    · exact hne
    · exact List.not_mem_nil

end Ga4Mcp.Tools
