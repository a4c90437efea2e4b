/-
  The tabular part of the response contract, of `src/contract.rs`.

  `nextCursor` and `queryHints` read a `meta` value as a client does;
  `nextCursor_toJson` and `queryHints_toJson` say what they find in a `TabularMeta`.
-/
import Ga4Mcp.Tools.Json

namespace Ga4Mcp.Tools

/-- How rows are shown. -/
inductive OutputMode where
  | rows
  | tuples
  | scalar
  | compact
deriving DecidableEq, Repr

/-- The names that serialisation gives the modes. -/
def OutputMode.asStr : OutputMode → Text
  | rows => text "rows"
  | tuples => text "tuples"
  | scalar => text "scalar"
  | compact => text "compact"

/-- A column of a reply. -/
structure ColumnMeta where
  name : Text
  logicalType : Option Text
  nullable : Option Bool
deriving DecidableEq, Repr

namespace ColumnMeta

/-- A column with a name only. -/
def new (name : Text) : ColumnMeta := ⟨name, none, none⟩

/-- And a logical type. -/
def withLogicalType (column : ColumnMeta) (logicalType : Text) : ColumnMeta :=
  { column with logicalType := some logicalType }

/-- And whether it may be null. -/
def withNullable (column : ColumnMeta) (nullable : Bool) : ColumnMeta :=
  { column with nullable := some nullable }

/-- The column in a reply. -/
def toJson (column : ColumnMeta) : Json :=
  .object <|
    JsonMap.insertSome (text "nullable") (column.nullable.map .bool) <|
    JsonMap.insertSome (text "logical_type") (column.logicalType.map .string) <|
    JsonMap.ofFields [(text "name", .string column.name)]

end ColumnMeta

/-- The meta of a reply. -/
structure TabularMeta where
  outputMode : OutputMode
  summaryOnly : Bool
  rowCountTotal : Nat
  rowCountReturned : Nat
  truncated : Bool
  nextCursor : Option Text
  queryHash : Option Text
  columns : List ColumnMeta
  queryHints : Option (List Text)
  cellClipping : Option Json

namespace TabularMeta

/-- The meta of a reply of rows. -/
def rows (rowCountTotal rowCountReturned : Nat) (columns : List ColumnMeta) : TabularMeta where
  outputMode := .rows
  summaryOnly := false
  rowCountTotal := rowCountTotal
  rowCountReturned := rowCountReturned
  truncated := rowCountReturned < rowCountTotal
  nextCursor := none
  queryHash := none
  columns := columns
  queryHints := none
  cellClipping := none

/-- `serde_json::to_value`; the two last fields are skipped when they are `None`. -/
def toJson (m : TabularMeta) : Json :=
  .object <|
    JsonMap.insertSome (text "cell_clipping") m.cellClipping <|
    JsonMap.insertSome (text "query_hints") (m.queryHints.map .ofTexts) <|
    JsonMap.ofFields [
      (text "output_mode", .string m.outputMode.asStr),
      (text "summary_only", .bool m.summaryOnly),
      (text "row_count_total", .ofNat m.rowCountTotal),
      (text "row_count_returned", .ofNat m.rowCountReturned),
      (text "truncated", .bool m.truncated),
      (text "next_cursor", .ofOption (m.nextCursor.map .string)),
      (text "query_hash", .ofOption (m.queryHash.map .string)),
      (text "columns", .array (m.columns.map ColumnMeta.toJson))]

end TabularMeta

/-! ## What a client reads -/

/-- `meta.next_cursor`, unless it is null. -/
def nextCursor (reply : Json) : Option Text := (reply.get (text "next_cursor")).bind Json.asStr

/-- `meta.query_hints`; a missing field has no hints. -/
def queryHints (reply : Json) : List Text :=
  (((reply.get (text "query_hints")).bind Json.asArray).getD []).filterMap Json.asStr

/-- The count of rows that a reply says it shows. -/
def rowCountReturned (reply : Json) : Option Nat :=
  (reply.get (text "row_count_returned")).bind Json.asU64

/-- A field that the handlers add to `meta` leaves the others alone. -/
theorem get_insertField {key key' : Text} (h : key ≠ key') (field : Json) (reply : Json) :
    (reply.insertField key field).get key' = reply.get key' := by
  cases reply with
  | object fields => exact (JsonMap.get_insert _ _ _ _).trans (if_neg h)
  | _ => rfl

theorem get_toJson (m : TabularMeta) :
    m.toJson.get (text "next_cursor") = some (.ofOption (m.nextCursor.map .string)) ∧
    m.toJson.get (text "query_hints") = m.queryHints.map .ofTexts ∧
    m.toJson.get (text "row_count_returned") = some (.ofNat m.rowCountReturned) := by
  refine ⟨?_, ?_, ?_⟩
  all_goals
    simp only [TabularMeta.toJson, Json.get, JsonMap.ofFields, List.foldl, JsonMap.get_insertSome,
      JsonMap.get_insert]
    simp +decide

theorem nextCursor_toJson (m : TabularMeta) : nextCursor m.toJson = m.nextCursor := by
  rw [nextCursor, (get_toJson m).1]
  cases m.nextCursor <;> rfl

theorem queryHints_toJson (m : TabularMeta) : queryHints m.toJson = m.queryHints.getD [] := by
  rw [queryHints, (get_toJson m).2.1]
  cases m.queryHints with
  | none => rfl
  | some hints =>
      have hread : ∀ hints : List Text, (hints.map Json.string).filterMap Json.asStr = hints := by
        intro hints
        rw [List.filterMap_map]
        exact List.filterMap_some
      exact hread hints

theorem rowCountReturned_toJson {m : TabularMeta} (h : m.rowCountReturned ≤ usizeMax) :
    rowCountReturned m.toJson = some m.rowCountReturned := by
  rw [rowCountReturned, (get_toJson m).2.2]
  exact if_pos h

end Ga4Mcp.Tools
