/-
  `scratchpad_export_evidence_bundle` of `src/tools.rs`: samples of the tables of a session,
  and a summary of them in Markdown.

  The inventory of the session (`list_tables`) and the time are parameters.

  * `selectTables_eq_ok`: the requested tables are taken once each, by their first mention.
  * `evidenceBundle_shows`: what a bundle shows of tables that the engine holds.
-/
import Ga4Mcp.Tools.CursorIdentity
import Ga4Mcp.Tools.TableQueries
import Ga4Mcp.Tools.Upstream

namespace Ga4Mcp.Tools

open Ga4Mcp.Lib Ga4Mcp.SqlSafety Ga4Mcp.Scratchpad

/-! ## Arguments -/

def defaultEvidenceSampleRows : Nat := 20

def maxEvidenceSampleRows : Nat := 200

def maxEvidenceTables : Nat := 50

/-- The arguments of `scratchpad_export_evidence_bundle`. -/
structure ScratchpadEvidenceBundleArgs where
  sessionId : Text
  tableNames : Option (List Text)
  sampleRowsPerTable : Option Nat

/-- What the tool uses of the server; `listTables` answers the names of a session's tables. -/
structure EvidenceServer extends ScratchpadServer where
  hasher : Text → UInt64
  listTables : Text → Nat → Except AnalyticsError (List Text)
  generatedAtEpochMs : Nat

/-- The rows of each sample. -/
def resolveEvidenceSampleRows (value : Option Nat) : Except AnalyticsError Nat :=
  resolvePositiveUpTo maxEvidenceSampleRows value defaultEvidenceSampleRows "sample_rows_per_table"

/-- An error about the named tables. -/
def tableNamesError (message : Text) : AnalyticsError := .invalidArgument (text "table_names") message

/-- A table as it was asked for, and its name in the session. -/
structure SelectedTable where
  requested : Text
  normalized : Text

/-- The loop over the requested names; `dedupe` are the normalized names before. -/
def selectTables (dedupe : List Text) : List Text → Except AnalyticsError (List SelectedTable)
  | [] => .ok []
  | requested :: rest => do
      let normalized ← normalizeTableIdentifier requested
      if normalized ∈ dedupe then selectTables dedupe rest
      else do
        let tables ← selectTables (normalized :: dedupe) rest
        return ⟨requested, normalized⟩ :: tables

/-- The tables that the call names. -/
def requestedTables (tableNames : List Text) : Except AnalyticsError (List SelectedTable) := do
  refuseIf tableNames.isEmpty (tableNamesError (text "must not be empty when provided"))
  refuseIf (tableNames.length > maxEvidenceTables)
    (tableNamesError (text "must include <= " ++ Text.decimal maxEvidenceTables ++ text " entries"))
  selectTables [] tableNames

section Bundle

variable (server : EvidenceServer) (args : ScratchpadEvidenceBundleArgs)

/-- The named tables, or those of the session. -/
def candidateTables : Except AnalyticsError (List SelectedTable) :=
  match args.tableNames with
  | some tableNames => requestedTables tableNames
  | none => (server.listTables args.sessionId maxEvidenceTables).map fun inventory =>
      inventory.map fun name => ⟨name, name⟩

/-- There is at least one. -/
def selectedTables : Except AnalyticsError (List SelectedTable) := do
  let tables ← candidateTables server args
  refuseIf tables.isEmpty (tableNamesError
    (text "no scratchpad tables available; ingest or provide explicit table_names"))
  return tables

/-! ## Samples -/

/-- What a bundle shows of a table. -/
structure TableSample where
  table : SelectedTable
  queryHash : Text
  rowCountTotal : Nat
  columns : List ColumnMeta
  rows : List JsonMap

/-- The query hash of a sample. -/
def evidenceQueryHash (table : SelectedTable) : Text :=
  scratchpadQueryHash server.hasher (text "scratchpad_export_evidence_bundle") args.sessionId
    (sampleSql table.normalized)

/-- The sample of a table. -/
def sampleTable (sampleRowsPerTable : Nat) (table : SelectedTable) :
    Except AnalyticsError TableSample := do
  let projection ← executeScratchpadProjection server.toScratchpadServer args.sessionId
    (sampleSql table.normalized) 0 sampleRowsPerTable
  return ⟨table, evidenceQueryHash server args table, projection.rowCountTotal,
    projection.columns, projection.rows⟩

/-- An entry of `table_bundles`. -/
def TableSample.toJson (sample : TableSample) : Json := .ofFields [
  ("table_name", .ofFields [
    ("requested", .string sample.table.requested),
    ("normalized", .string sample.table.normalized)]),
  ("sample_query", .ofFields [
    ("sql", .string (sampleSql sample.table.normalized)),
    ("query_hash", .string sample.queryHash)]),
  ("row_count_total", .ofNat sample.rowCountTotal),
  ("row_count_sampled", .ofNat sample.rows.length),
  ("sample_truncated", .bool (sample.rowCountTotal > sample.rows.length)),
  ("columns", .array (sample.columns.map ColumnMeta.toJson)),
  ("sample_rows", .array (sample.rows.map .object))]

/-! ## The summary -/

/-- A text of the bundle, for the markdown. -/
def getString (value : Json) (outer inner : String) : Text :=
  (((value.get (text outer)).bind fun value => value.get (text inner)).bind Json.asStr).getD
    (text "<unknown>")

/-- A number of the bundle, for the markdown. -/
def getCount (value : Json) (key : String) : Nat := ((value.get (text key)).bind Json.asU64).getD 0

/-- The line about one table, which is read off its entry. -/
def markdownLine (table : Json) : Text :=
  text "- `" ++ getString table "table_name" "normalized" ++ text "`: total_rows=" ++
    Text.decimal (getCount table "row_count_total") ++ text ", sampled_rows=" ++
    Text.decimal (getCount table "row_count_sampled") ++ text ", query_hash=" ++
    getString table "sample_query" "query_hash" ++ text "\n"

/-- The markdown before its lines of tables. -/
def markdownHeader (tableCount sampleRowsPerTable : Nat) : Text :=
  text "# Scratchpad Evidence Bundle\n\n- Session: `" ++ Text.trim args.sessionId ++
    text "`\n- Generated (epoch_ms): `" ++ Text.decimal server.generatedAtEpochMs ++
    text "`\n- Tables: `" ++ Text.decimal tableCount ++
    text "`\n- Sample rows per table: `" ++ Text.decimal sampleRowsPerTable ++ text "`\n\n" ++
    text "## Table Summary\n\n"

/-- The reply, with one line of markdown for each table. -/
def evidenceReply (sampleRowsPerTable : Nat) (tableBundles : List Json) : Json := .ofFields [
  ("session_id", .string (Text.trim args.sessionId)),
  ("generated_at_epoch_ms", .ofNat server.generatedAtEpochMs),
  ("sample_rows_per_table", .ofNat sampleRowsPerTable),
  ("tables", .array tableBundles),
  ("markdown", .string (markdownHeader server args tableBundles.length sampleRowsPerTable ++
    tableBundles.flatMap markdownLine))]

def scratchpadExportEvidenceBundle : Except AnalyticsError Json := do
  let sampleRowsPerTable ← resolveEvidenceSampleRows args.sampleRowsPerTable
  let tables ← selectedTables server args
  let samples ← tables.mapM (sampleTable server args sampleRowsPerTable)
  return evidenceReply server args sampleRowsPerTable (samples.map TableSample.toJson)

end Bundle

/-! ## Selected tables -/

/-- The first mentions of the names that are not in `dedupe`. -/
inductive FirstMentions : List Text → List Text → List SelectedTable → Prop where
  | nil {dedupe : List Text} : FirstMentions dedupe [] []
  | again {dedupe rest : List Text} {requested normalized : Text} {tables : List SelectedTable}
      (name : normalizeTableIdentifier requested = .ok normalized) (seen : normalized ∈ dedupe)
      (more : FirstMentions dedupe rest tables) : FirstMentions dedupe (requested :: rest) tables
  | first {dedupe rest : List Text} {requested normalized : Text} {tables : List SelectedTable}
      (name : normalizeTableIdentifier requested = .ok normalized) (new : normalized ∉ dedupe)
      (more : FirstMentions (normalized :: dedupe) rest tables) :
      FirstMentions dedupe (requested :: rest) (⟨requested, normalized⟩ :: tables)

theorem selectTables_eq_ok {dedupe names : List Text} {tables : List SelectedTable} :
    selectTables dedupe names = .ok tables ↔ FirstMentions dedupe names tables := by
  induction names generalizing dedupe tables with
  | nil =>
      constructor
      · rintro ⟨⟩
        exact .nil
      · rintro ⟨⟩
        rfl
  | cons requested rest ih =>
      constructor
      · intro h
        obtain ⟨normalized, hname, h⟩ := bind_eq_ok.mp h
        split at h
        · next hseen => exact .again hname hseen (ih.mp h)
        · next hnew =>
            obtain ⟨more, hmore, h⟩ := bind_eq_ok.mp h
            cases pure_eq_ok.mp h
            exact .first hname hnew (ih.mp hmore)
      · intro h
        cases h with
        | again hname hseen more =>
            refine bind_eq_ok.mpr ⟨_, hname, ?_⟩
            rw [if_pos hseen]
            exact ih.mpr more
        | first hname hnew more =>
            refine bind_eq_ok.mpr ⟨_, hname, ?_⟩
            rw [if_neg hnew]
            exact bind_eq_ok.mpr ⟨_, ih.mpr more, rfl⟩

namespace FirstMentions

variable {dedupe names : List Text} {tables : List SelectedTable}

/-- No table twice, and none of those before. -/
theorem nodup (h : FirstMentions dedupe names tables) :
    (tables.map SelectedTable.normalized).Nodup ∧
      ∀ table ∈ tables, table.normalized ∉ dedupe := by
  induction h with
  | nil => exact ⟨List.nodup_nil, List.forall_mem_nil _⟩
  | again _ _ _ ih => exact ih
  | first _ new _ ih =>
      obtain ⟨hnodup, hnew⟩ := ih
      refine ⟨List.nodup_cons.mpr ⟨?_, hnodup⟩, List.forall_mem_cons.mpr ⟨new, ?_⟩⟩
      · intro hmem
        obtain ⟨table, htable, hname⟩ := List.mem_map.mp hmem
        exact hnew table htable (hname ▸ List.mem_cons_self)
      · exact fun table htable hmem => hnew table htable (List.mem_cons_of_mem _ hmem)

/-- Every name has its table. -/
theorem covers (h : FirstMentions dedupe names tables) : ∀ name ∈ names, ∃ normalized,
    normalizeTableIdentifier name = .ok normalized ∧
      (normalized ∈ dedupe ∨ normalized ∈ tables.map SelectedTable.normalized) := by
  induction h with
  | nil => exact List.forall_mem_nil _
  | again hname hseen _ ih => exact List.forall_mem_cons.mpr ⟨⟨_, hname, .inl hseen⟩, ih⟩
  | first hname _ _ ih =>
      refine List.forall_mem_cons.mpr ⟨⟨_, hname, .inr List.mem_cons_self⟩, fun name hmem => ?_⟩
      obtain ⟨normalized, hnormalized, hcovered⟩ := ih name hmem
      refine ⟨normalized, hnormalized, ?_⟩
      rcases hcovered with hseen | htable
      · rcases List.mem_cons.mp hseen with rfl | hseen
        · exact .inr List.mem_cons_self
        · exact .inl hseen
      · exact .inr (List.mem_cons_of_mem _ htable)

/-- And every table has its name. -/
theorem sound (h : FirstMentions dedupe names tables) : ∀ table ∈ tables,
    table.requested ∈ names ∧ normalizeTableIdentifier table.requested = .ok table.normalized := by
  induction h with
  | nil => exact List.forall_mem_nil _
  | again _ _ _ ih => exact fun table htable => (ih table htable).imp_left (List.mem_cons_of_mem _)
  | first hname _ _ ih =>
      exact List.forall_mem_cons.mpr ⟨⟨List.mem_cons_self, hname⟩, fun table htable =>
        (ih table htable).imp_left (List.mem_cons_of_mem _)⟩

end FirstMentions

/-- Of the requested names, each table is there, once. -/
structure Requested (names : List Text) (tables : List SelectedTable) : Prop where
  once : (tables.map SelectedTable.normalized).Nodup
  covers : ∀ name ∈ names, ∃ table ∈ tables,
    normalizeTableIdentifier name = .ok table.normalized
  sound : ∀ table ∈ tables,
    table.requested ∈ names ∧ normalizeTableIdentifier table.requested = .ok table.normalized

theorem requestedTables_ok {names : List Text} {tables : List SelectedTable}
    (h : requestedTables names = .ok tables) : FirstMentions [] names tables := by
  obtain ⟨_, -, h⟩ := bind_eq_ok.mp h
  obtain ⟨_, -, h⟩ := bind_eq_ok.mp h
  exact selectTables_eq_ok.mp h

theorem FirstMentions.requested {names : List Text} {tables : List SelectedTable}
    (h : FirstMentions [] names tables) : Requested names tables := by
  refine ⟨h.nodup.1, fun name hname => ?_, h.sound⟩
  obtain ⟨normalized, hnormalized, hcovered⟩ := h.covers name hname
  -- nothing was seen before the first name
  rw [or_iff_right List.not_mem_nil] at hcovered
  obtain ⟨table, htable, rfl⟩ := List.mem_map.mp hcovered
  exact ⟨table, htable, hnormalized⟩

/-! ## Tables that the engine holds -/

section Held

variable {server : EvidenceServer} {args : ScratchpadEvidenceBundleArgs}
  {tables : List SelectedTable} {held : Text → List ColumnMeta × List JsonMap}
  {sampleRowsPerTable : Nat}

/-- The session has these tables, and their samples may be asked for. -/
structure HoldsSamples (server : EvidenceServer) (sessionId : Text) (tables : List SelectedTable)
    (held : Text → List ColumnMeta × List JsonMap) : Prop where
  uninterrupted : server.interruption = none
  passed : ∀ table ∈ tables, TakesSize server.config (sampleSql table.normalized) ∧
    Authorized server.toolkit (sampleSql table.normalized)
  answered : ∃ conn, server.openConnection sessionId = .ok conn ∧ ∀ table ∈ tables,
    ∃ result, EngineHolds conn (sampleSql table.normalized) result ∧
      projectResultSet result = .ok (held table.normalized)

/-- The sample of a table that is held. -/
def heldSample (server : EvidenceServer) (args : ScratchpadEvidenceBundleArgs)
    (held : Text → List ColumnMeta × List JsonMap) (sampleRowsPerTable : Nat)
    (table : SelectedTable) : TableSample where
  table := table
  queryHash := evidenceQueryHash server args table
  rowCountTotal := (held table.normalized).2.length
  columns := (held table.normalized).1
  rows := (held table.normalized).2.take sampleRowsPerTable

theorem HoldsSamples.sampleTable_eq (h : HoldsSamples server args.sessionId tables held)
    (hrows : sampleRowsPerTable ≤ maxEvidenceSampleRows) {table : SelectedTable}
    (htable : table ∈ tables) : sampleTable server args sampleRowsPerTable table =
      .ok (heldSample server args held sampleRowsPerTable table) := by
  obtain ⟨conn, hconn, hanswers⟩ := h.answered
  obtain ⟨result, hengine, hresult⟩ := hanswers table htable
  have hguarded : runGuarded server.toScratchpadServer args.sessionId
      (sampleSql table.normalized) .ok = .ok conn := by
    refine bind_eq_ok.mpr ⟨(), guardSql_sampleSql.mpr (h.passed table htable), ?_⟩
    refine bind_eq_ok.mpr ⟨conn, hconn, ?_⟩
    rw [h.uninterrupted]
  have hlimit : sampleRowsPerTable ≤ maxTabularMaxRows := hrows.trans (by decide)
  obtain ⟨projection, hprojection, hcolumns, hsample, htotal⟩ :=
    hengine.projection hguarded hresult (Nat.zero_le _) hlimit
  refine bind_eq_ok.mpr ⟨projection, hprojection, ?_⟩
  rw [hcolumns, hsample, htotal, List.drop_zero]
  rfl

/-- What an entry and its line say of a table. -/
structure Evidence (held : Text → List ColumnMeta × List JsonMap) (sampleRowsPerTable : Nat)
    (queryHash : SelectedTable → Text) (table : SelectedTable) (bundle : Json) : Prop where
  requested : getString bundle "table_name" "requested" = table.requested
  normalized : getString bundle "table_name" "normalized" = table.normalized
  columns : bundle.get (text "columns") =
    some (.array ((held table.normalized).1.map ColumnMeta.toJson))
  sample : bundle.get (text "sample_rows") =
    some (.array (((held table.normalized).2.take sampleRowsPerTable).map .object))
  truncated : bundle.get (text "sample_truncated") =
    some (.bool (sampleRowsPerTable < (held table.normalized).2.length))
  total : bundle.get (text "row_count_total") = some (.ofNat (held table.normalized).2.length)
  line : markdownLine bundle = text "- `" ++ table.normalized ++ text "`: total_rows=" ++
    Text.decimal (held table.normalized).2.length ++ text ", sampled_rows=" ++
    Text.decimal (min sampleRowsPerTable (held table.normalized).2.length) ++
    text ", query_hash=" ++ queryHash table ++ text "\n"

section Reading

variable (sample : TableSample)

theorem TableSample.getString_toJson :
    getString sample.toJson "table_name" "requested" = sample.table.requested ∧
    getString sample.toJson "table_name" "normalized" = sample.table.normalized ∧
    getString sample.toJson "sample_query" "query_hash" = sample.queryHash := by
  refine ⟨?_, ?_, ?_⟩
  · rw [getString, toJson, Json.get_ofFields (by simp) (.head _), Option.bind_some,
      Json.get_ofFields (by simp) (.head _)]
    rfl
  · rw [getString, toJson, Json.get_ofFields (by simp) (.head _), Option.bind_some,
      Json.get_ofFields (by simp) (.tail _ (.head _))]
    rfl
  · rw [getString, toJson, Json.get_ofFields (by simp) (.tail _ (.head _)), Option.bind_some,
      Json.get_ofFields (by simp) (.tail _ (.head _))]
    rfl

theorem TableSample.getCount_toJson (htotal : sample.rowCountTotal ≤ usizeMax)
    (hrows : sample.rows.length ≤ usizeMax) :
    getCount sample.toJson "row_count_total" = sample.rowCountTotal ∧
    getCount sample.toJson "row_count_sampled" = sample.rows.length := by
  have hread : ∀ n ≤ usizeMax, (Json.ofNat n).asU64 = some n := fun n hn => if_pos hn
  constructor
  · rw [getCount, toJson, Json.get_ofFields (by simp) (.tail _ (.tail _ (.head _))),
      Option.bind_some, hread _ htotal]
    rfl
  · rw [getCount, toJson, Json.get_ofFields (by simp) (.tail _ (.tail _ (.tail _ (.head _)))),
      Option.bind_some, hread _ hrows]
    rfl

end Reading

theorem evidence_heldSample {table : SelectedTable}
    (hfits : (held table.normalized).2.length ≤ usizeMax) :
    Evidence held sampleRowsPerTable (evidenceQueryHash server args) table
      (heldSample server args held sampleRowsPerTable table).toJson := by
  have hlength : (heldSample server args held sampleRowsPerTable table).rows.length =
      min sampleRowsPerTable (held table.normalized).2.length := List.length_take
  obtain ⟨hrequested, hnormalized, hhash⟩ :=
    (heldSample server args held sampleRowsPerTable table).getString_toJson
  obtain ⟨htotal, hsampled⟩ :=
    (heldSample server args held sampleRowsPerTable table).getCount_toJson hfits
      (hlength ▸ (Nat.min_le_right ..).trans hfits)
  have htruncated : decide ((heldSample server args held sampleRowsPerTable table).rowCountTotal >
      (heldSample server args held sampleRowsPerTable table).rows.length) =
      decide (sampleRowsPerTable < (held table.normalized).2.length) := by
    rw [hlength]
    refine decide_eq_decide.mpr ?_
    change min _ _ < (held table.normalized).2.length ↔ _
    omega
  refine ⟨hrequested, hnormalized, ?_, ?_, ?_, ?_, ?_⟩
  · exact Json.get_ofFields (by simp)
      (.tail _ (.tail _ (.tail _ (.tail _ (.tail _ (.head _))))))
  · exact Json.get_ofFields (by simp)
      (.tail _ (.tail _ (.tail _ (.tail _ (.tail _ (.tail _ (.head _)))))))
  · rw [TableSample.toJson, Json.get_ofFields (by simp)
      (.tail _ (.tail _ (.tail _ (.tail _ (.head _))))), htruncated]
  · exact Json.get_ofFields (by simp) (.tail _ (.tail _ (.head _)))
  · rw [markdownLine, hnormalized, htotal, hsampled, hhash, hlength]
    rfl

/-- What a bundle shows of the tables. Those that were asked for it shows once each, at their
    first mention. -/
structure ShowsEvidence (server : EvidenceServer) (args : ScratchpadEvidenceBundleArgs)
    (tables : List SelectedTable) (held : Text → List ColumnMeta × List JsonMap)
    (sampleRowsPerTable : Nat) (reply : Json) : Prop where
  mentioned : ∀ names ∈ args.tableNames, FirstMentions [] names tables
  requested : ∀ names ∈ args.tableNames, Requested names tables
  entries : ∃ bundles, reply.get (text "tables") = some (.array bundles) ∧
    List.Forall₂ (Evidence held sampleRowsPerTable (evidenceQueryHash server args)) tables bundles ∧
    reply.get (text "markdown") = some (.string (
      markdownHeader server args tables.length sampleRowsPerTable ++ bundles.flatMap markdownLine))

/-- **A bundle** of tables that the engine holds shows each of them once, with its number of
    rows, its first rows, and whether that is all; and its summary says the same. -/
theorem evidenceBundle_shows
    (hrows : resolveEvidenceSampleRows args.sampleRowsPerTable = .ok sampleRowsPerTable)
    (htables : selectedTables server args = .ok tables)
    (hheld : HoldsSamples server args.sessionId tables held)
    (hfits : ∀ table ∈ tables, (held table.normalized).2.length ≤ usizeMax) :
    ∃ reply, scratchpadExportEvidenceBundle server args = .ok reply ∧
      ShowsEvidence server args tables held sampleRowsPerTable reply := by
  have hsamples : tables.mapM (sampleTable server args sampleRowsPerTable) =
      .ok (tables.map (heldSample server args held sampleRowsPerTable)) := by
    refine mapM_eq_ok.mpr ?_
    rw [List.forall₂_map_right_iff, List.forall₂_same]
    exact fun table htable => hheld.sampleTable_eq (resolvePositiveUpTo_ok hrows).2 htable
  refine ⟨_, bind_eq_ok.mpr ⟨_, hrows, bind_eq_ok.mpr ⟨tables, htables, bind_eq_ok.mpr
    ⟨_, hsamples, rfl⟩⟩⟩, ?_⟩
  have hmentioned : ∀ names ∈ args.tableNames, FirstMentions [] names tables := by
    intro names hnames
    obtain ⟨candidates, hcandidates, h⟩ := bind_eq_ok.mp htables
    obtain ⟨_, -, h⟩ := bind_eq_ok.mp h
    cases pure_eq_ok.mp h
    rw [candidateTables, Option.mem_def.mp hnames] at hcandidates
    exact requestedTables_ok hcandidates
  refine ⟨hmentioned, fun names hnames => (hmentioned names hnames).requested, _,
    Json.get_ofFields (by simp) (.tail _ (.tail _ (.tail _ (.head _)))), ?_, ?_⟩
  · rw [List.map_map, List.forall₂_map_right_iff, List.forall₂_same]
    exact fun table htable => evidence_heldSample (hfits table htable)
  · rw [evidenceReply, Json.get_ofFields (by simp)
      (.tail _ (.tail _ (.tail _ (.tail _ (.head _))))), List.length_map, List.length_map]

end Held

/-! ## A table of three rows -/

/-- The number at the end of a text, and what stands before it. -/
theorem digits_at_end (before : Text) {c : Char} (hc : c.isDigit = false) (n : Nat) :
    (before ++ [c] ++ Text.decimal n).rtakeWhile Char.isDigit = Text.decimal n ∧
    (before ++ [c] ++ Text.decimal n).rdropWhile Char.isDigit = before ++ [c] := by
  have hdigits : ∀ c ∈ (Text.decimal n).reverse, c.isDigit = true := fun c hc =>
    Text.isDigit_of_mem_decimal (List.mem_reverse.mp hc)
  rw [List.rtakeWhile, List.rdropWhile, List.reverse_append, List.reverse_concat,
    List.takeWhile_append_of_pos hdigits, List.dropWhile_append_of_pos hdigits,
    List.takeWhile_cons_of_neg (by simp [hc]), List.dropWhile_cons_of_neg (by simp [hc]),
    List.append_nil, List.reverse_reverse, List.reverse_cons, List.reverse_reverse]
  exact ⟨rfl, rfl⟩

/-- The number at the end of a text. -/
def readNumber (t : Text) : Nat := Nat.ofDigitChars 10 (t.rtakeWhile Char.isDigit) 0

theorem readNumber_decimal (before : Text) {c : Char} (hc : c.isDigit = false) (n : Nat) :
    readNumber (before ++ [c] ++ Text.decimal n) = n := by
  rw [readNumber, (digits_at_end before hc n).1]
  exact Nat.ofDigitChars_ten_toDigits

/-- The limit that a page query names. -/
def limitOfPage (sql : Text) : Nat :=
  readNumber ((sql.rdropWhile Char.isDigit).rdrop (text " OFFSET ").length)

theorem read_wrapQueryForPage (sql : Text) (offset limit : Nat) :
    readNumber (wrapQueryForPage sql offset limit) = offset ∧
    limitOfPage (wrapQueryForPage sql offset limit) = limit := by
  let upToLimit := text "SELECT * FROM (" ++ trimSqlForSubquery sql ++ text ") AS " ++
    scratchpadQueryAlias ++ text " LIMIT"
  have hpage : wrapQueryForPage sql offset limit =
      (upToLimit ++ [' '] ++ Text.decimal limit ++ text " OFFSET") ++ [' '] ++
        Text.decimal offset := by
    have hlimit : text " LIMIT " = text " LIMIT" ++ [' '] := rfl
    have hoffset : text " OFFSET " = text " OFFSET" ++ [' '] := rfl
    simp only [wrapQueryForPage, upToLimit, hlimit, hoffset, List.append_assoc]
  have hlength : (text " OFFSET ").length = (text " OFFSET" ++ [' ']).length := rfl
  rw [hpage]
  refine ⟨readNumber_decimal _ (by decide) _, ?_⟩
  rw [limitOfPage, (digits_at_end _ (by decide) _).2, List.append_assoc _ (text " OFFSET"), hlength,
    List.rdrop_append_length]
  exact readNumber_decimal _ (by decide) _

/-- An engine that counts and cuts one table. -/
def oneTableEngine (table : ResultSet) : Connection := ⟨fun sql => .ok ⟨.ok (
  if Text.startsWith sql countOpening then
    ⟨some [(text "row_count_total", .int64)], [fun _ => .ok (.bigInt table.rows.length)], none⟩
  else table.window (readNumber sql) (limitOfPage sql))⟩⟩

theorem engineHolds_oneTable (table : ResultSet) (tableName : Text) :
    EngineHolds (oneTableEngine table) (sampleSql tableName) table where
  count _ := ⟨_, _, [], rfl, rfl, rfl⟩
  page _ offset limit _ _ := by
    obtain ⟨hoffset, hlimit⟩ := read_wrapQueryForPage (sampleSql tableName) offset limit
    have hstarts : Text.startsWith (wrapQueryForPage (sampleSql tableName) offset limit)
        countOpening = false := rfl
    rw [oneTableEngine]
    dsimp only
    rw [if_neg (by rw [hstarts]; exact Bool.false_ne_true), hoffset, hlimit]
  whole h := by
    rw [supportsWrappedPagination_sampleSql] at h
    cases h

/-- A result of three rows. -/
def threeRows : ResultSet where
  columns := some [(text "n", .int64)]
  rows := (List.range 3).map fun n _ => .ok (.bigInt n)
  failure := none

/-- A server whose session holds one table. -/
def evidenceServer : EvidenceServer where
  config := defaultConfig
  toolkit := ⟨fun _ => none, fun _ => ⟨true, none⟩⟩
  openConnection := fun _ => .ok (oneTableEngine threeRows)
  interruption := none
  hasher := fun _ => 0
  listTables := fun _ _ => .ok []
  generatedAtEpochMs := 0

/-- Two samples of one table, which is named twice. -/
def evidenceArgs : ScratchpadEvidenceBundleArgs :=
  ⟨text "s", some [text "Countries", text "countries"], some 2⟩

theorem evidenceBundle_shows_countries : ∃ reply,
    scratchpadExportEvidenceBundle evidenceServer evidenceArgs = .ok reply ∧
    ShowsEvidence evidenceServer evidenceArgs [⟨text "Countries", text "countries"⟩]
      (fun _ => ([((ColumnMeta.new (text "n")).withLogicalType (text "integer")).withNullable true],
        (List.range 3).map fun n => .ofFields [(text "n", .ofNat n)])) 2 reply := by
  refine evidenceBundle_shows rfl (by rfl) ⟨rfl, ?_, ?_⟩ ?_
  · intro table htable
    obtain rfl := List.mem_singleton.mp htable
    exact ⟨⟨by decide, by decide +kernel⟩, rfl⟩
  · refine ⟨_, rfl, fun table htable => ⟨threeRows, engineHolds_oneTable _ _, ?_⟩⟩
    rfl
  · exact fun _ _ => by decide

end Ga4Mcp.Tools
