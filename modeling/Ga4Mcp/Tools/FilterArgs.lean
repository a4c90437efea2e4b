/-
  The filter arguments as they are received, of `src/tools.rs`.

  A filter is an object, the text of one, or a shorthand. `parse` is `serde_json::from_str`,
  with the text of its error.

  * `normalizeOptionalFilter_isObject`: what is received is an object.
-/
import Ga4Mcp.Lib.Checks
import Ga4Mcp.Tools.Json

namespace Ga4Mcp.Tools

open Ga4Mcp.Lib

/-! ## The shorthand -/

/-- `str::split_once` with a text. -/
def splitOnceAt (sep : Text) : Text → Option (Text × Text)
  | [] => if sep = [] then some ([], []) else none
  | c :: rest =>
      if sep.isPrefixOf (c :: rest) then some ([], (c :: rest).drop sep.length)
      else (splitOnceAt sep rest).map fun parts => (c :: parts.1, parts.2)

/-- The text has the same quote at both ends. -/
def isWrappedInMatchingQuotes (raw : Text) : Bool :=
  Text.len raw ≥ 2 &&
    (raw.head? = some '"' && raw.getLast? = some '"' ||
      raw.head? = some '\'' && raw.getLast? = some '\'')

/-- The text without them. -/
def stripOptionalQuotes (raw : Text) : Text :=
  if isWrappedInMatchingQuotes raw then raw.tail.dropLast else raw

/-- The field name, the value and the operator between them. -/
def splitFilterExpression (raw field : Text) : Except Text (Text × Text × Text) :=
  match splitOnceAt (text "==") raw with
  | some (name, value) => .ok (name, value, text "==")
  | none =>
      match Text.splitOnce '=' raw with
      | some (name, value) => .ok (name, value, text "=")
      | none => .error (field ++ text " expression must use `field==value` (or `field=value`)")

/-- A field, an operator and a value as a filter. -/
def parseSimpleDimensionFilterExpression (raw field : Text) : Except Text Json := do
  let (rawName, rawValue, operator) ← splitFilterExpression raw field
  let fieldName := Text.trim rawName
  refuseIf fieldName.isEmpty
    (field ++ text " expression has an empty field name before `" ++ operator ++ text "`")
  let rawValue := Text.trim rawValue
  refuseIf (rawValue.any Text.isWhitespace ∧ ¬ isWrappedInMatchingQuotes rawValue)
    (field ++ text (" values containing spaces should be quoted (for example " ++
      "`sessionDefaultChannelGroup==\"Paid Other\"`) or expressed as a JSON FilterExpression " ++
      "object"))
  let value := stripOptionalQuotes rawValue
  refuseIf value.isEmpty
    (field ++ text " expression has an empty value after `" ++ operator ++ text "`")
  return .ofFields [("filter", .ofFields [
    ("field_name", .string fieldName),
    ("string_filter", .ofFields [
      ("match_type", .string (text "EXACT")),
      ("value", .string value)])])]

/-! ## The filter -/

section

variable (parse : Text → Except Text Json)

/-- A filter written as JSON. -/
def parseFilterJsonString (raw field : Text) : Except Text Json :=
  match parse raw with
  | .error err => .error (field ++ text " JSON parse failed: " ++ Text.trim err)
  | .ok parsed =>
      if parsed.isObject then .ok parsed
      else .error (field ++ text " JSON form must decode to an object")

/-- A filter given as a text. -/
def parseFilterStringValue (raw field : Text) (allowExpressionShorthand : Bool) :
    Except Text Json :=
  let trimmed := Text.trim raw
  if trimmed.isEmpty then .error (field ++ text " must not be an empty string")
  else if Text.startsWith trimmed (text "\x7b") then parseFilterJsonString parse trimmed field
  else if allowExpressionShorthand then parseSimpleDimensionFilterExpression trimmed field
  else .error (field ++
    text " string form must be a JSON object like `\x7b\"filter\": ...\x7d`")

/-- A filter argument in any of its forms. -/
def normalizeOptionalFilter (value : Option Json) (field : Text)
    (allowExpressionShorthand : Bool) : Except Text (Option Json) :=
  match value with
  | none => .ok none
  | some .null => .ok none
  | some (.object fields) => .ok (some (.object fields))
  | some (.string raw) =>
      (parseFilterStringValue parse raw field allowExpressionShorthand).map some
  | some _ => .error (field ++ text " must be an object, JSON-object string" ++
      if allowExpressionShorthand then text ", or `field==value`" else [])

def deserializeOptionalDimensionFilter (value : Option Json) : Except Text (Option Json) :=
  normalizeOptionalFilter parse value (text "dimension_filter") true

def deserializeOptionalMetricFilter (value : Option Json) : Except Text (Option Json) :=
  normalizeOptionalFilter parse value (text "metric_filter") false

end

/-! ## Objects -/

theorem parseSimpleDimensionFilterExpression_isObject {raw field : Text} {filter : Json}
    (h : parseSimpleDimensionFilterExpression raw field = .ok filter) : filter.isObject = true := by
  obtain ⟨⟨rawName, rawValue, operator⟩, -, h⟩ := bind_eq_ok.mp h
  obtain ⟨⟨⟩, -, h⟩ := bind_eq_ok.mp h
  obtain ⟨⟨⟩, -, h⟩ := bind_eq_ok.mp h
  obtain ⟨⟨⟩, -, h⟩ := bind_eq_ok.mp h
  rw [← pure_eq_ok.mp h]
  rfl

section

variable {parse : Text → Except Text Json}

theorem parseFilterStringValue_isObject {raw field : Text} {allow : Bool} {filter : Json}
    (h : parseFilterStringValue parse raw field allow = .ok filter) : filter.isObject = true := by
  unfold parseFilterStringValue at h
  dsimp only at h
  split at h
  case isTrue => cases h
  case isFalse =>
    split at h
    case isTrue =>
      unfold parseFilterJsonString at h
      split at h
      case h_1 => cases h
      case h_2 parsed _ =>
        split at h
        case isTrue hobject =>
          obtain rfl := Except.ok.inj h
          exact hobject
        case isFalse => cases h
    case isFalse =>
      split at h
      case isTrue => exact parseSimpleDimensionFilterExpression_isObject h
      case isFalse => cases h

/-- **A filter that is received** is an object. -/
theorem normalizeOptionalFilter_isObject {value : Option Json} {field : Text} {allow : Bool}
    {filter : Json} (h : normalizeOptionalFilter parse value field allow = .ok (some filter)) :
    filter.isObject = true := by
  unfold normalizeOptionalFilter at h
  split at h
  · cases h
  · cases h
  · obtain rfl := Option.some.inj (Except.ok.inj h)
    rfl
  · obtain ⟨parsed, hparsed, hsome⟩ := map_eq_ok.mp h
    obtain rfl := Option.some.inj hsome
    exact parseFilterStringValue_isObject hparsed
  · cases h

end

end Ga4Mcp.Tools
