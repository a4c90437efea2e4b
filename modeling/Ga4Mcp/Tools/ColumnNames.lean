/-
  The names of columns, of `src/tools.rs`. Rows are maps from names to cells, so that two
  columns of one name lose a cell.

  * `Shows`: the `rows`, `tuples` and `compact` payloads show each cell of a table.
  * `nodup_dedupeColumnNames_iff`: which raw names `dedupe_column_names` keeps apart.
  * `nodup_columns_iff`: which header names stay apart in a GA projection.
  * `projectionShows_iff`: exactly those results are shown in full.
-/
import Ga4Mcp.Lib.Names
import Ga4Mcp.Tools.Upstream

namespace Ga4Mcp.Tools

open Ga4Mcp.Lib

/-! ## Maps -/

namespace JsonMap

theorem get_foldl_insert {key : Text} (fields : List (Text × Json)) (map : JsonMap)
    (h : key ∉ fields.map Prod.fst) :
    get (fields.foldl (fun map field => insert field.1 field.2 map) map) key = get map key := by
  induction fields generalizing map with
  | nil => rfl
  | cons field fields ih =>
      rw [List.map_cons, List.mem_cons, not_or] at h
      rw [List.foldl_cons, ih _ h.2, get_insert, if_neg (Ne.symm h.1)]

/-- A map of distinct keys holds each of them. -/
theorem get_ofFields {key : Text} {value : Json} {fields : List (Text × Json)}
    (hkeys : (fields.map Prod.fst).Nodup) (h : (key, value) ∈ fields) :
    get (ofFields fields) key = some value := by
  unfold ofFields
  generalize ([] : JsonMap) = map
  induction fields generalizing map with
  | nil => cases h
  | cons field fields ih =>
      rw [List.map_cons, List.nodup_cons] at hkeys
      rw [List.foldl_cons]
      rcases List.mem_cons.mp h with rfl | h
      · rw [get_foldl_insert _ _ hkeys.1, get_insert, if_pos rfl]
      · exact ih hkeys.2 h _

end JsonMap

/-! ## Shown cells -/

/-- The payloads show each cell: `cells` has a list for each row. -/
structure Shows (columns : List ColumnMeta) (rows : List JsonMap) (cells : List (List Json)) :
    Prop where
  distinct : (columns.map ColumnMeta.name).Nodup
  inRows : ∃ objects, payloadByMode rows columns .rows = .array (objects.map .object) ∧
    List.Forall₂ (fun object values => List.Forall₂
      (fun column value => JsonMap.get object column.name = some value) columns values)
      objects cells
  inTuples : payloadByMode rows columns .tuples = .array (cells.map .array)
  inCompact : payloadByMode rows columns .compact = .ofFields [
    ("columns", .ofTexts (columns.map ColumnMeta.name)),
    ("tuples", .array (cells.map .array)),
    ("row_count", .ofNat cells.length)]

/-- A row of a table. -/
def rowOf (columns : List ColumnMeta) (values : List Json) : JsonMap :=
  JsonMap.ofFields ((columns.map ColumnMeta.name).zip values)

theorem get_rowOf {columns : List ColumnMeta} {values : List Json}
    (hdistinct : (columns.map ColumnMeta.name).Nodup) (hlength : columns.length = values.length) :
    List.Forall₂ (fun column value => JsonMap.get (rowOf columns values) column.name = some value)
      columns values := by
  refine List.forall₂_iff_zip.mpr ⟨hlength, fun {column value} hmem => ?_⟩
  refine JsonMap.get_ofFields ?_ ?_
  · rwa [List.map_fst_zip (by rw [List.length_map]; exact hlength.le)]
  · rw [List.zip_map_left]
    exact List.mem_map.mpr ⟨_, hmem, rfl⟩

/-- **Rows that are written column by column** show each cell, if the names are distinct. -/
theorem shows_rowOf_iff {columns : List ColumnMeta} {cells : List (List Json)}
    (hlength : ∀ values ∈ cells, columns.length = values.length) :
    Shows columns (cells.map (rowOf columns)) cells ↔ (columns.map ColumnMeta.name).Nodup := by
  refine ⟨Shows.distinct, fun hdistinct => ?_⟩
  have htuples : rowsToTuples (cells.map (rowOf columns)) columns = .array (cells.map .array) := by
    rw [rowsToTuples, List.map_map]
    refine congrArg Json.array (List.map_congr_left fun values hvalues => ?_)
    refine congrArg Json.array ?_
    have hget := get_rowOf hdistinct (hlength values hvalues)
    rw [← List.forall₂_eq_eq_eq, List.forall₂_map_left_iff]
    exact hget.imp fun column value h => by rw [h]; rfl
  refine ⟨hdistinct, ⟨cells.map (rowOf columns), rfl, ?_⟩, htuples, ?_⟩
  · rw [List.forall₂_map_left_iff, List.forall₂_same]
    exact fun values hvalues => get_rowOf hdistinct (hlength values hvalues)
  · rw [payloadByMode, htuples, List.length_map]

/-! ## Numbered names -/

/-- The name of an occurrence after the first. -/
def repeatedName (base : Text) (count : Nat) : Text := base ++ text "_" ++ Text.decimal count

/-- The digits after the last underscore tell the count. -/
theorem repeatedName_injective : Function.Injective2 repeatedName := by
  have hread : ∀ base count, (repeatedName base count).rtakeWhile Char.isDigit =
        Text.decimal count ∧ (repeatedName base count).rdropWhile Char.isDigit =
        base ++ text "_" := by
    intro base count
    have hdigits : ∀ c ∈ (Text.decimal count).reverse, c.isDigit = true := fun c hc =>
      Text.isDigit_of_mem_decimal (List.mem_reverse.mp hc)
    have hstop : (base ++ text "_").reverse = '_' :: base.reverse := by
      rw [List.reverse_append]
      rfl
    rw [repeatedName, List.rtakeWhile, List.rdropWhile, List.reverse_append,
      List.takeWhile_append_of_pos hdigits, List.dropWhile_append_of_pos hdigits, hstop,
      List.takeWhile_cons_of_neg (by decide), List.dropWhile_cons_of_neg (by decide),
      List.append_nil, List.reverse_reverse, List.reverse_cons, List.reverse_reverse]
    exact ⟨rfl, rfl⟩
  intro base base' count count' h
  refine ⟨?_, Text.decimal_injective ?_⟩
  · exact List.append_cancel_right ((hread base count).2.symm.trans (h ▸ (hread base' count').2))
  · exact (hread base count).1.symm.trans (h ▸ (hread base' count').1)

theorem fallbackColumnName_injective (pref : Text) :
    Function.Injective (fallbackColumnName pref) := by
  intro n k h
  exact Text.decimal_injective (List.append_cancel_left h)

/-! ## Query results -/

/-- The normalised names. -/
def baseNames (raw : List Text) : List Text :=
  raw.zipIdx.map fun name => normalizeSqlIdentifier name.1 (columnFallback name.2)

/-- No numbered name is a normalised name. -/
def SuffixesApart (raw : List Text) : Prop :=
  ∀ base ∈ baseNames raw, ∀ count ≤ (baseNames raw).count base, 2 ≤ count →
    repeatedName base count ∉ baseNames raw

instance (raw : List Text) : Decidable (SuffixesApart raw) := by
  unfold SuffixesApart
  infer_instance

theorem dedupeFrom_eq (seen : List Text) (names : List (Text × Nat)) :
    dedupeFrom seen names = suffixRepeats repeatedName seen
      (names.map fun name => normalizeSqlIdentifier name.1 (columnFallback name.2)) := by
  induction names generalizing seen with
  | nil => rfl
  | cons name names ih =>
      rw [dedupeFrom, List.map_cons, suffixRepeats, ih]
      rfl

theorem nodup_dedupeColumnNames_iff (raw : List Text) :
    (dedupeColumnNames raw).Nodup ↔ SuffixesApart raw := by
  rw [dedupeColumnNames, dedupeFrom_eq, nodup_suffixRepeats_iff repeatedName_injective]
  constructor
  · exact fun h base _ count hle htwo => h base count htwo hle
  · intro h base count htwo hle
    refine h base (List.count_pos_iff.mp ?_) count hle htwo
    exact lt_of_lt_of_le Nat.zero_lt_two (htwo.trans hle)

theorem length_dedupeFrom (seen : List Text) (names : List (Text × Nat)) :
    (dedupeFrom seen names).length = names.length := by
  induction names generalizing seen with
  | nil => rfl
  | cons name names ih => rw [dedupeFrom, List.length_cons, List.length_cons, ih]

/-- The engine's cells as JSON, for so many columns. -/
def EngineCells (width : Nat) (rows : List DuckRow) (cells : List (List Json)) : Prop :=
  List.Forall₂ (fun row values => List.Forall₂
    (fun idx value => (row idx).map duckValueToJson = .ok value) (List.range width) values)
    rows cells

theorem EngineCells.length_eq {width : Nat} {rows : List DuckRow} {cells : List (List Json)}
    (h : EngineCells width rows cells) : ∀ values ∈ cells, values.length = width := by
  induction h with
  | nil =>
      intro values hvalues
      cases hvalues
  | cons hrow _ ih =>
      intro values hvalues
      rcases List.mem_cons.mp hvalues with rfl | hvalues
      · rw [← hrow.length_eq, List.length_range]
      · exact ih values hvalues

theorem projectDuckRow_cells {columnNames : List Text} {row : DuckRow} {projected : JsonMap}
    (h : projectDuckRow columnNames row = .ok projected) :
    ∃ values, List.Forall₂ (fun idx value => (row idx).map duckValueToJson = .ok value)
        (List.range columnNames.length) values ∧
      projected = JsonMap.ofFields (columnNames.zip values) := by
  unfold projectDuckRow at h
  unfold JsonMap.ofFields
  rw [List.range_eq_range']
  generalize ([] : JsonMap) = start at h ⊢
  generalize (0 : Nat) = first at h ⊢
  induction columnNames generalizing start first with
  | nil => exact ⟨[], .nil, (pure_eq_ok.mp h).symm⟩
  | cons name names ih =>
      rw [List.zipIdx_cons, List.foldlM_cons] at h
      obtain ⟨next, hcell, hrest⟩ := bind_eq_ok.mp h
      obtain ⟨value, hvalue, hnext⟩ := bind_eq_ok.mp hcell
      obtain ⟨values, hvalues, hprojected⟩ := ih _ _ hrest
      refine ⟨duckValueToJson value :: values, .cons ?_ hvalues, ?_⟩
      · rw [mapError_eq_ok.mp hvalue]
        rfl
      · rw [hprojected, ← pure_eq_ok.mp hnext]
        rfl

/-- The columns and the rows of a result set. -/
theorem projectResultSet_cells {table : ResultSet} {metadata : List (Text × DuckDataType)}
    {columns : List ColumnMeta} {rows : List JsonMap} (hmetadata : table.columns = some metadata)
    (h : projectResultSet table = .ok (columns, rows)) :
    columns.map ColumnMeta.name = dedupeColumnNames (metadata.map Prod.fst) ∧
    ∃ cells, EngineCells metadata.length table.rows cells ∧ rows = cells.map (rowOf columns) := by
  rw [projectResultSet, hmetadata] at h
  obtain ⟨projected, hprojected, hresult⟩ := bind_eq_ok.mp h
  have hnames : (dedupeColumnNames (metadata.map Prod.fst)).length = metadata.length := by
    rw [dedupeColumnNames, length_dedupeFrom, List.length_zipIdx, List.length_map]
  cases hfailure : table.failure with
  | some err =>
      rw [hfailure] at hresult
      cases hresult
  | none =>
      rw [hfailure] at hresult
      obtain ⟨hcolumns, rfl⟩ := Prod.mk.inj (pure_eq_ok.mp hresult)
      have hname : columns.map ColumnMeta.name = dedupeColumnNames (metadata.map Prod.fst) := by
        rw [← hcolumns, List.map_map]
        refine List.ext_getElem (by simp [hnames]) fun idx hidx hidx' => ?_
        rw [List.getElem_map, List.getElem_zipIdx, Function.comp_apply, duckColumnMeta,
          Nat.zero_add, List.getElem?_eq_getElem hidx']
        rfl
      refine ⟨hname, ?_⟩
      have hrows := mapM_eq_ok.mp hprojected
      clear hprojected hresult h hmetadata hfailure
      generalize table.rows = duckRows at hrows
      induction hrows with
      | nil => exact ⟨[], .nil, rfl⟩
      | cons hrow _ ih =>
          obtain ⟨cells, hcells, hrest⟩ := ih
          obtain ⟨values, hvalues, hshown⟩ := projectDuckRow_cells hrow
          rw [hnames] at hvalues
          refine ⟨values :: cells, .cons hvalues hcells, ?_⟩
          rw [List.map_cons, hrest, hshown, rowOf, hname]

/-- **Query results** are shown in full exactly when the names are apart. -/
theorem resultSetShows_iff {table : ResultSet} {metadata : List (Text × DuckDataType)}
    {columns : List ColumnMeta} {rows : List JsonMap} (hmetadata : table.columns = some metadata)
    (h : projectResultSet table = .ok (columns, rows)) :
    (∃ cells, EngineCells metadata.length table.rows cells ∧ Shows columns rows cells) ↔
      SuffixesApart (metadata.map Prod.fst) := by
  obtain ⟨hname, cells, hcells, hrows⟩ := projectResultSet_cells hmetadata h
  rw [← nodup_dedupeColumnNames_iff, ← hname]
  constructor
  · rintro ⟨cells', -, hshows⟩
    exact hshows.distinct
  · intro hdistinct
    refine ⟨cells, hcells, ?_⟩
    rw [hrows]
    refine (shows_rowOf_iff fun values hvalues => ?_).mpr hdistinct
    rw [hcells.length_eq values hvalues, ← List.length_map ColumnMeta.name, hname,
      dedupeColumnNames, length_dedupeFrom, List.length_zipIdx, List.length_map]

/-! ## GA responses -/

/-- The entries of an array field, none without it. -/
def arrayField (value : Json) (key : Text) : List Json :=
  ((value.get key).bind Json.asArray).getD []

/-- The name in a header, if it is not blank. -/
def headerName (nameField : Text) (header : Json) : Option Text :=
  ((header.get (text "name") <|> header.get nameField).bind Json.asStr).filter
    fun value => ¬ (Text.trim value).isEmpty

/-- The names of the dimension headers, where they have one. -/
def dimensionNames (response : Json) : List (Option Text) :=
  (arrayField response (text "dimensionHeaders")).map (headerName (text "dimensionName"))

/-- The names of the metric headers, where they have one. -/
def metricNames (response : Json) : List (Option Text) :=
  (arrayField response (text "metricHeaders")).map (headerName (text "metricName"))

/-- The names that the headers give. -/
def givenNames (response : Json) : List Text :=
  (dimensionNames response).reduceOption ++ (metricNames response).reduceOption

/-- No name is both a dimension and a metric, and no fallback is a given name. -/
structure HeadersApart (response : Json) : Prop where
  kinds : (dimensionNames response).reduceOption.Disjoint (metricNames response).reduceOption
  dimensionFallbacks : ∀ idx ∈ blanksFrom 0 (dimensionNames response),
    fallbackColumnName (text "dimension_") idx ∉ givenNames response
  metricFallbacks : ∀ idx ∈ blanksFrom 0 (metricNames response),
    fallbackColumnName (text "metric_") idx ∉ givenNames response

/-- The values of so many columns; a missing value is null. -/
def cellValues (values : List Json) (count : Nat) : List Json :=
  (List.range count).map fun idx =>
    (values[idx]?.bind fun entry => entry.get (text "value")).getD .null

/-- The cells of a response, row by row: the dimensions, then the metrics. -/
def gaCells (response : Json) : List (List Json) :=
  (arrayField response (text "rows")).map fun row =>
    cellValues (arrayField row (text "dimensionValues"))
      (arrayField response (text "dimensionHeaders")).length ++
    cellValues (arrayField row (text "metricValues"))
      (arrayField response (text "metricHeaders")).length

theorem extractColumns_names (headersField nameField fallback : Text) (logicalType : Json → Text)
    (response : Json) :
    (extractColumns headersField nameField fallback logicalType response).map ColumnMeta.name =
      fillFrom (fallbackColumnName fallback) 0
        ((arrayField response headersField).map (headerName nameField)) := by
  rw [extractColumns, arrayField]
  cases (response.get headersField).bind Json.asArray with
  | none => rfl
  | some headers =>
      rw [Option.getD_some, List.map_map]
      generalize (0 : Nat) = first
      induction headers generalizing first with
      | nil => rfl
      | cons header headers ih =>
          rw [List.zipIdx_cons, List.map_cons, List.map_cons, fillFrom, ih]
          rfl

/-- **Header names** that are distinct among the dimensions and among the metrics. -/
theorem nodup_columns_iff {response : Json}
    (hdimensions : (dimensionNames response).reduceOption.Nodup)
    (hmetrics : (metricNames response).reduceOption.Nodup) :
    ((extractDimensionColumns response ++ extractMetricColumns response).map
      ColumnMeta.name).Nodup ↔ HeadersApart response := by
  rw [List.map_append, extractDimensionColumns, extractMetricColumns, extractColumns_names,
    extractColumns_names, ← dimensionNames, ← metricNames, List.nodup_append',
    nodup_fillFrom_iff (fallbackColumnName_injective _) hdimensions,
    nodup_fillFrom_iff (fallbackColumnName_injective _) hmetrics]
  have hkind : ∀ n k, fallbackColumnName (text "dimension_") n ≠
      fallbackColumnName (text "metric_") k := fun n k h => absurd (List.cons.inj h).1 (by decide)
  constructor
  · rintro ⟨hdimension, hmetric, hdisjoint⟩
    refine ⟨fun name hname hname' => hdisjoint (mem_fillFrom.mpr (.inl hname))
      (mem_fillFrom.mpr (.inl hname')), fun idx hidx hmem => ?_, fun idx hidx hmem => ?_⟩
    · rcases List.mem_append.mp hmem with hmem | hmem
      · exact hdimension idx hidx hmem
      · exact hdisjoint (mem_fillFrom.mpr (.inr ⟨idx, hidx, rfl⟩)) (mem_fillFrom.mpr (.inl hmem))
    · rcases List.mem_append.mp hmem with hmem | hmem
      · exact hdisjoint (mem_fillFrom.mpr (.inl hmem)) (mem_fillFrom.mpr (.inr ⟨idx, hidx, rfl⟩))
      · exact hmetric idx hidx hmem
  · intro h
    refine ⟨fun idx hidx hmem => h.dimensionFallbacks idx hidx (List.mem_append_left _ hmem),
      fun idx hidx hmem => h.metricFallbacks idx hidx (List.mem_append_right _ hmem), ?_⟩
    intro name hname hname'
    rcases mem_fillFrom.mp hname with hname | ⟨idx, hidx, rfl⟩
    · rcases mem_fillFrom.mp hname' with hname' | ⟨idx, hidx, rfl⟩
      · exact h.kinds hname hname'
      · exact h.metricFallbacks idx hidx (List.mem_append_left _ hname)
    · rcases mem_fillFrom.mp hname' with hname' | ⟨idx', hidx', heq⟩
      · exact h.dimensionFallbacks idx hidx (List.mem_append_right _ hname')
      · exact hkind idx idx' heq.symm

theorem insertCells_eq (columns : List ColumnMeta) (values : List Json) (projected : JsonMap) :
    insertCells columns values projected =
      ((columns.map ColumnMeta.name).zip (cellValues values columns.length)).foldl
        (fun map field => JsonMap.insert field.1 field.2 map) projected := by
  rw [insertCells, cellValues, List.range_eq_range']
  generalize (0 : Nat) = first
  induction columns generalizing projected first with
  | nil => rfl
  | cons column columns ih =>
      rw [List.zipIdx_cons, List.foldl_cons, ih]
      rfl

theorem length_cellValues (values : List Json) (count : Nat) :
    (cellValues values count).length = count := by
  rw [cellValues, List.length_map, List.length_range]

theorem length_extractColumns (headersField nameField fallback : Text)
    (logicalType : Json → Text) (response : Json) :
    (extractColumns headersField nameField fallback logicalType response).length =
      (arrayField response headersField).length := by
  rw [extractColumns, arrayField]
  cases (response.get headersField).bind Json.asArray with
  | none => rfl
  | some headers => exact (List.length_map _).trans List.length_zipIdx

theorem projectGaRow_eq (dimensionColumns metricColumns : List ColumnMeta) (row : Json) :
    projectGaRow dimensionColumns metricColumns row = rowOf (dimensionColumns ++ metricColumns)
      (cellValues (arrayField row (text "dimensionValues")) dimensionColumns.length ++
        cellValues (arrayField row (text "metricValues")) metricColumns.length) := by
  rw [projectGaRow, insertCells_eq, insertCells_eq, rowOf, JsonMap.ofFields, List.map_append,
    List.zip_append (by rw [List.length_map, length_cellValues]), List.foldl_append]
  rfl

/-- **GA responses** are shown in full exactly when the header names are apart. -/
theorem responseShows_iff {response : Json} (reportKind : Text)
    (hdimensions : (dimensionNames response).reduceOption.Nodup)
    (hmetrics : (metricNames response).reduceOption.Nodup) :
    Shows (projectGaTabularResponse response reportKind).columns
        (projectGaTabularResponse response reportKind).rows (gaCells response) ↔
      HeadersApart response := by
  have hrows : (projectGaTabularResponse response reportKind).rows = (gaCells response).map
      (rowOf (extractDimensionColumns response ++ extractMetricColumns response)) := by
    change projectGaRowsToObjects _ _ _ = _
    rw [projectGaRowsToObjects_eq, gaCells, List.map_map]
    refine List.map_congr_left fun row _ => ?_
    rw [projectGaRow_eq, Function.comp_apply, extractDimensionColumns, extractMetricColumns,
      length_extractColumns, length_extractColumns]
  rw [hrows, ← nodup_columns_iff hdimensions hmetrics]
  refine shows_rowOf_iff fun values hvalues => ?_
  obtain ⟨row, -, rfl⟩ := List.mem_map.mp hvalues
  change (extractDimensionColumns response ++ extractMetricColumns response).length = _
  rw [List.length_append, List.length_append, length_cellValues, length_cellValues,
    extractDimensionColumns, extractMetricColumns, length_extractColumns, length_extractColumns]

/-! ## Both -/

/-- **Projection loses no cell** exactly when the names of the columns stay apart. -/
theorem projectionShows_iff (raw : List Text) :
    ((dedupeColumnNames raw).Nodup ↔ SuffixesApart raw) ∧
    (∀ (table : ResultSet) (metadata : List (Text × DuckDataType)) (columns : List ColumnMeta)
      (rows : List JsonMap), table.columns = some metadata →
      projectResultSet table = .ok (columns, rows) →
      ((∃ cells, EngineCells metadata.length table.rows cells ∧ Shows columns rows cells) ↔
        SuffixesApart (metadata.map Prod.fst))) ∧
    ∀ (response : Json) (reportKind : Text), (dimensionNames response).reduceOption.Nodup →
      (metricNames response).reduceOption.Nodup →
      (Shows (projectGaTabularResponse response reportKind).columns
          (projectGaTabularResponse response reportKind).rows (gaCells response) ↔
        HeadersApart response) :=
  ⟨nodup_dedupeColumnNames_iff raw, fun _ _ _ _ => resultSetShows_iff,
    fun _ reportKind => responseShows_iff reportKind⟩

/-- A response with one dimension and one metric. -/
def twoHeaders (dimension metric : String) : Json := .ofFields [
  ("dimensionHeaders", .array [.ofFields [("name", .string (text dimension))]]),
  ("metricHeaders", .array [.ofFields [("name", .string (text metric))]]),
  ("rows", .array [.ofFields [
    ("dimensionValues", .array [.ofFields [("value", .string (text "DE"))]]),
    ("metricValues", .array [.ofFields [("value", .string (text "7"))]])]])]

theorem projectionShows_apart :
    (dedupeColumnNames (["Event Name", "Event-Name", "event_name"].map text)).Nodup ∧
    Shows (projectGaTabularResponse (twoHeaders "country" "activeUsers") []).columns
      (projectGaTabularResponse (twoHeaders "country" "activeUsers") []).rows
      (gaCells (twoHeaders "country" "activeUsers")) := by
  obtain ⟨hnames, -, hresponses⟩ :=
    projectionShows_iff (["Event Name", "Event-Name", "event_name"].map text)
  refine ⟨hnames.mpr (by decide), ?_⟩
  refine (hresponses _ _ (by decide) (by decide)).mpr ⟨?_, ?_, ?_⟩
  · intro name hname hname'
    rw [show name = text "country" from List.mem_singleton.mp hname] at hname'
    exact absurd hname' (by decide)
  · intro idx hidx
    cases hidx
  · intro idx hidx
    cases hidx

/-- A name with a suffix of its own, and a name that is a dimension and a metric. -/
theorem not_projectionShows :
    ¬ (dedupeColumnNames (["Event Name", "Event-Name", "event_name_2"].map text)).Nodup ∧
    ¬ Shows (projectGaTabularResponse (twoHeaders "country" "country") []).columns
      (projectGaTabularResponse (twoHeaders "country" "country") []).rows
      (gaCells (twoHeaders "country" "country")) :=
  ⟨by decide, fun h => absurd h.distinct (by decide)⟩

end Ga4Mcp.Tools
