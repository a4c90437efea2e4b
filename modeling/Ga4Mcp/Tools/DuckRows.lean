/-
  Query results of the scratchpad engine and their rows as JSON, of `src/tools.rs`.

  The engine is a parameter: a `Connection` answers each SQL text with a result set, or
  with an error text. A float is kept as what the source reads of it.

  `projectResultSet_window`: a window of a result set is projected to the same window of
  its rows.
-/
import Ga4Mcp.Lib.Checks
import Ga4Mcp.Tools.Contract
import Ga4Mcp.Tools.Cursor

namespace Ga4Mcp.Tools

open Ga4Mcp.Lib

/-! ## Engine values -/

/-- `DataType`, without the parameters of its variants. -/
inductive DuckDataType where
  | boolean
  | int8 | int16 | int32 | int64 | uint8 | uint16 | uint32 | uint64
  | float16 | float32 | float64 | decimal128 | decimal256
  | date32 | date64 | timestamp | time32 | time64
  | binary | largeBinary | fixedSizeBinary
  | list | largeList | fixedSizeList | struct | map | union | dictionary
  | other
deriving DecidableEq, Repr

/-- A float: whether it is finite, its JSON number, its text, and `raw.max(0.0) as usize`. -/
structure DuckFloat where
  finite : Bool
  number : Text
  display : Text
  asUsize : Nat
deriving DecidableEq, Repr

/-- `Value`: a cell of a result. -/
inductive DuckValue where
  | null
  | boolean (raw : Bool)
  | tinyInt (raw : Int)
  | smallInt (raw : Int)
  | int (raw : Int)
  | bigInt (raw : Int)
  | hugeInt (raw : Int)
  | uTinyInt (raw : Nat)
  | uSmallInt (raw : Nat)
  | uInt (raw : Nat)
  | uBigInt (raw : Nat)
  | float (raw : DuckFloat)
  | double (raw : DuckFloat)
  | decimal (display : Text)
  | timestamp (raw : Int)
  | text (raw : Text)
  | blob (raw : List UInt8)
  | date32 (raw : Int)
  | time64 (raw : Int)
  | interval (months days nanos : Int)
  | list (raw : List DuckValue)
  | array (raw : List DuckValue)
  | struct (raw : List (Text × DuckValue))
  | map (raw : List (DuckValue × DuckValue))
  | union (raw : DuckValue)
  | enum (raw : Text)

/-- The logical type of a column. -/
def duckdbTypeToLogicalType : DuckDataType → Text
  | .boolean => text "boolean"
  | .int8 | .int16 | .int32 | .int64 | .uint8 | .uint16 | .uint32 | .uint64 => text "integer"
  | .float16 | .float32 | .float64 | .decimal128 | .decimal256 => text "number"
  | .date32 | .date64 => text "date"
  | .timestamp => text "datetime"
  | .time32 | .time64 => text "time"
  | .binary | .largeBinary | .fixedSizeBinary => text "blob"
  | .list | .largeList | .fixedSizeList | .struct | .map | .union | .dictionary => text "json"
  | .other => text "string"

/-- `to_string` of an integer. -/
def signedDecimal (raw : Int) : Text :=
  if raw < 0 then '-' :: Text.decimal raw.natAbs else Text.decimal raw.natAbs

/-- `json!` of an integer. -/
def jsonOfInt (raw : Int) : Json :=
  if raw < 0 then .number (.negInt raw.natAbs) else .ofNat raw.natAbs

/-- A number when it is finite, else its text. -/
def jsonOfFloat (raw : DuckFloat) : Json :=
  if raw.finite then .number (.float raw.number) else .string raw.display

/-- Two digits for each byte. -/
def bytesToHex (raw : List UInt8) : Text :=
  raw.flatMap fun byte => [Nat.digitChar (byte.toNat / 16), Nat.digitChar (byte.toNat % 16)]

mutual

def duckValueToJson : DuckValue → Json
  | .null => .null
  | .boolean raw => .bool raw
  | .tinyInt raw | .smallInt raw | .int raw | .bigInt raw => jsonOfInt raw
  | .hugeInt raw => .string (signedDecimal raw)
  | .uTinyInt raw | .uSmallInt raw | .uInt raw | .uBigInt raw => .ofNat raw
  | .float raw | .double raw => jsonOfFloat raw
  | .decimal display => .string display
  | .timestamp raw | .date32 raw | .time64 raw => jsonOfInt raw
  | .text raw => .string raw
  | .blob raw => .string (Ga4Mcp.text "0x" ++ bytesToHex raw)
  | .interval months days nanos => .ofFields [
      ("months", jsonOfInt months), ("days", jsonOfInt days), ("nanos", jsonOfInt nanos)]
  | .list raw | .array raw => .array (duckValuesToJson raw)
  | .struct raw => .object (JsonMap.ofFields (duckFieldsToJson raw))
  | .map raw => .array (duckPairsToJson raw)
  | .union raw => duckValueToJson raw
  | .enum raw => .string raw

/-- The values of a list. -/
def duckValuesToJson : List DuckValue → List Json
  | [] => []
  | value :: values => duckValueToJson value :: duckValuesToJson values

/-- The fields of a struct. -/
def duckFieldsToJson : List (Text × DuckValue) → List (Text × Json)
  | [] => []
  | (key, value) :: fields => (key, duckValueToJson value) :: duckFieldsToJson fields

/-- The entries of a map. -/
def duckPairsToJson : List (DuckValue × DuckValue) → List Json
  | [] => []
  | (key, value) :: pairs =>
      .ofFields [("key", duckValueToJson key), ("value", duckValueToJson value)] ::
        duckPairsToJson pairs

end

/-- `duck_value_to_usize`, for the count of rows. -/
def duckValueToUsize : DuckValue → Nat
  | .tinyInt raw | .smallInt raw | .int raw | .bigInt raw => raw.toNat
  | .hugeInt raw => if 0 ≤ raw ∧ raw.toNat ≤ usizeMax then raw.toNat else usizeMax
  | .uTinyInt raw | .uSmallInt raw | .uInt raw | .uBigInt raw => raw
  | .float raw | .double raw => raw.asUsize
  | .text raw => (parseU64 (Text.trim raw)).getD 0
  | _ => 0

/-! ## Column names -/

/-- The loop of `normalize_sql_identifier`, with its flag. -/
def identifierChars : Bool → Text → Text
  | _, [] => []
  | previousUnderscore, ch :: rest =>
      if ch.isAlphanum then ch.toLower :: identifierChars false rest
      else if previousUnderscore then identifierChars true rest
      else '_' :: identifierChars true rest

def normalizeSqlIdentifier (raw fallback : Text) : Text :=
  let normalized := identifierChars false (Text.trim raw)
  let normalized := (normalized.dropWhile (· = '_')).rdropWhile (· = '_')
  let normalized := if normalized.isEmpty then fallback else normalized
  match normalized with
  | first :: _ => if first.isDigit then '_' :: normalized else normalized
  | [] => normalized

/-- The name of a column without one. -/
def columnFallback (idx : Nat) : Text := text "column_" ++ Text.decimal (idx + 1)

/-- The loop of `dedupe_column_names`; `seen` are the bases of the names before. -/
def dedupeFrom (seen : List Text) : List (Text × Nat) → List Text
  | [] => []
  | (name, idx) :: rest =>
      let base := normalizeSqlIdentifier name (columnFallback idx)
      let count := seen.count base
      let deduped :=
        if count = 0 then base else base ++ text "_" ++ Text.decimal (count + 1)
      deduped :: dedupeFrom (base :: seen) rest

def dedupeColumnNames (raw : List Text) : List Text := dedupeFrom [] raw.zipIdx

/-! ## Query results -/

/-- A row answers `get_ref` for each column index. -/
abbrev DuckRow := Nat → Except Text DuckValue

/-- The columns are those of the statement's metadata, if the engine has it; `failure` is
    the error that ends the rows, if one does. -/
structure ResultSet where
  columns : Option (List (Text × DuckDataType))
  rows : List DuckRow
  failure : Option Text

/-- A prepared statement. -/
structure Statement where
  query : Except Text ResultSet

/-- A connection: what it answers each SQL text. -/
structure Connection where
  prepare : Text → Except Text Statement

/-- An error of the engine, behind what was attempted. -/
def engineError (action : String) (err : Text) : AnalyticsError :=
  .scratchpadEngine (text action ++ err)

/-- The first cell of the first row, as a count. -/
def queryRowCount (conn : Connection) (sql : Text) : Except AnalyticsError Nat := do
  let stmt ← (conn.prepare sql).mapError
    (engineError "failed to prepare scratchpad row-count query: ")
  let rows ← stmt.query.mapError (engineError "failed to execute scratchpad row-count query: ")
  match rows.rows, rows.failure with
  | row :: _, _ => do
      let value ← (row 0).mapError (engineError "failed to decode scratchpad row-count value: ")
      return duckValueToUsize value
  | [], some err => .error (engineError "failed to fetch scratchpad row-count row: " err)
  | [], none => return 0

/-- The loop over the columns of one row. -/
def projectDuckRow (columnNames : List Text) (row : DuckRow) : Except AnalyticsError JsonMap :=
  columnNames.zipIdx.foldlM (fun projected column => do
    let value ← (row column.2).mapError (engineError "failed to decode scratchpad column value: ")
    return JsonMap.insert column.1 (duckValueToJson value) projected) []

/-- The column with this index. -/
def duckColumnMeta (columnNames : List Text) (dataType : DuckDataType) (idx : Nat) : ColumnMeta :=
  ((ColumnMeta.new (columnNames[idx]?.getD (columnFallback idx))).withLogicalType
    (duckdbTypeToLogicalType dataType)).withNullable true

/-- The columns and the rows of a result set. -/
def projectResultSet (rows : ResultSet) : Except AnalyticsError (List ColumnMeta × List JsonMap) :=
  match rows.columns with
  | none => .error (.internal (text "missing scratchpad statement metadata"))
  | some columns => do
      let columnNames := dedupeColumnNames (columns.map Prod.fst)
      let projectedRows ← rows.rows.mapM (projectDuckRow columnNames)
      match rows.failure with
      | some err => .error (engineError "failed to fetch scratchpad query row: " err)
      | none =>
          return (columns.zipIdx.map fun column =>
            duckColumnMeta columnNames column.1.2 column.2, projectedRows)

/-- The columns and rows of a query. -/
def executeDuckdbQueryRows (conn : Connection) (sql : Text) :
    Except AnalyticsError (List ColumnMeta × List JsonMap) := do
  let stmt ← (conn.prepare sql).mapError (engineError "failed to prepare scratchpad query: ")
  let rows ← stmt.query.mapError (engineError "failed to execute scratchpad query: ")
  projectResultSet rows

/-! ## Windows of a result set -/

/-- The rows of a window. -/
def ResultSet.window (table : ResultSet) (offset limit : Nat) : ResultSet :=
  { table with rows := (table.rows.drop offset).take limit }

theorem projectResultSet_window {table : ResultSet} {columns : List ColumnMeta}
    {rows : List JsonMap} (h : projectResultSet table = .ok (columns, rows)) (offset limit : Nat) :
    projectResultSet (table.window offset limit) =
      .ok (columns, (rows.drop offset).take limit) := by
  unfold projectResultSet at h ⊢
  cases hcolumns : table.columns with
  | none =>
      rw [hcolumns] at h
      cases h
  | some metadata =>
      rw [hcolumns] at h
      obtain ⟨projected, hprojected, h⟩ := bind_eq_ok.mp h
      have hwindow : (table.window offset limit).rows.mapM
          (projectDuckRow (dedupeColumnNames (metadata.map Prod.fst))) =
            .ok ((projected.drop offset).take limit) :=
        mapM_eq_ok.mpr (List.forall₂_take _ (List.forall₂_drop _ (mapM_eq_ok.mp hprojected)))
      have hmetadata : (table.window offset limit).columns = some metadata := hcolumns
      rw [hmetadata]
      simp only [hwindow]
      have hfailure : (table.window offset limit).failure = table.failure := rfl
      rw [hfailure]
      cases hf : table.failure with
      | some err =>
          rw [hf] at h
          cases h
      | none =>
          rw [hf] at h
          obtain ⟨rfl, rfl⟩ := Prod.mk.inj (pure_eq_ok.mp h)
          rfl

/-- What the engine answers is projected. -/
theorem executeDuckdbQueryRows_eq {conn : Connection} {sql : Text} {rows : ResultSet}
    (h : conn.prepare sql = .ok ⟨.ok rows⟩) :
    executeDuckdbQueryRows conn sql = projectResultSet rows := by
  rw [executeDuckdbQueryRows, h]
  rfl

end Ga4Mcp.Tools
