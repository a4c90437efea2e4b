/-
  JSON values, of `serde_json` as the source uses it, and the two conversions of
  `src/ga_client.rs`.

  A `Map` is a `BTreeMap`: its fields stand in the order of their keys, and `insert`
  replaces the value of a key that is there. `render` is the compact text of
  `serde_json::to_string`. A number that is no integer is kept as the text it is written
  with.

  `JsonMap.get_insert`: what a map holds after an insertion.
-/
import Ga4Mcp.Numbers
import Mathlib.Tactic.Common

namespace Ga4Mcp.Tools

/-- A number, in the forms that `serde_json` tells apart. -/
inductive JsonNumber where
  | posInt (value : Nat)
  | negInt (magnitude : Nat)
  | float (written : Text)
deriving DecidableEq, Repr

/-- A JSON value. -/
inductive Json where
  | null
  | bool (value : Bool)
  | number (value : JsonNumber)
  | string (value : Text)
  | array (values : List Json)
  | object (fields : List (Text × Json))
deriving Repr

/-- The fields of an object, in the order of their keys. -/
abbrev JsonMap := List (Text × Json)

namespace JsonMap

/-- `Map::insert`. -/
def insert (key : Text) (value : Json) : JsonMap → JsonMap
  | [] => [(key, value)]
  | field :: fields =>
      if key = field.1 then (key, value) :: fields
      else if key < field.1 then (key, value) :: field :: fields
      else field :: insert key value fields

/-- `Map::get`. -/
def get (fields : JsonMap) (key : Text) : Option Json :=
  (fields.find? fun field => field.1 = key).map Prod.snd

/-- `collect` of pairs: later values replace earlier ones. -/
def ofFields (fields : List (Text × Json)) : JsonMap :=
  fields.foldl (fun map field => insert field.1 field.2 map) []

/-- `insert` under `if let Some(value)`. -/
def insertSome (key : Text) (value : Option Json) (fields : JsonMap) : JsonMap :=
  value.elim fields fun value => insert key value fields

@[simp]
theorem get_nil (key : Text) : get [] key = none := rfl

@[simp]
theorem get_insert (key key' : Text) (value : Json) (fields : JsonMap) :
    get (insert key value fields) key' = if key = key' then some value else get fields key' := by
  unfold get
  induction fields with
  | nil =>
      rw [insert, List.find?_cons]
      split <;> simp_all
  | cons field fields ih =>
      rw [insert]
      split
      · next hkey => subst hkey; simp only [List.find?_cons]; split <;> simp_all
      · split
        · rw [List.find?_cons]; split <;> simp_all
        · next hne _ =>
            rw [List.find?_cons, List.find?_cons]
            split
            · next hfield => rw [if_neg (by rintro rfl; exact hne (of_decide_eq_true hfield).symm)]
            · exact ih

@[simp]
theorem get_insertSome (key key' : Text) (value : Option Json) (fields : JsonMap) :
    get (insertSome key value fields) key' =
      if key = key' then value.or (get fields key') else get fields key' := by
  cases value with
  | none => simp [insertSome]
  | some value => simp [insertSome]

end JsonMap

namespace Json

/-! ## Reading -/

/-- `Value::get` with a key. -/
def get (value : Json) (key : Text) : Option Json :=
  match value with
  | object fields => JsonMap.get fields key
  | _ => none

/-- The values of an array. -/
def asArray : Json → Option (List Json)
  | array values => some values
  | _ => none

/-- The fields of an object. -/
def asObject : Json → Option JsonMap
  | object fields => some fields
  | _ => none

/-- The text of a string. -/
def asStr : Json → Option Text
  | string value => some value
  | _ => none

/-- `Value::as_u64`. -/
def asU64 : Json → Option Nat
  | number (.posInt value) => if value ≤ usizeMax then some value else none
  | _ => none

/-- Whether the value is an object. -/
def isObject (value : Json) : Bool := value.asObject.isSome

/-! ## Building -/

/-- `map.insert` under `if let Value::Object(ref mut map)`. -/
def insertField (value : Json) (key : Text) (field : Json) : Json :=
  match value with
  | object fields => object (JsonMap.insert key field fields)
  | other => other

/-- `json!` of an unsigned number. -/
def ofNat (n : Nat) : Json := number (.posInt n)

/-- `json!` of an object. -/
def ofFields (fields : List (String × Json)) : Json :=
  object (JsonMap.ofFields (fields.map fun field => (text field.1, field.2)))

/-- The value, or null. -/
def ofOption (value : Option Json) : Json := value.getD null

/-- An array of strings. -/
def ofTexts (values : List Text) : Json := array (values.map string)

/-! ## Writing -/

/-- A digit of an escape. -/
def hexDigit (n : Nat) : Char := Nat.digitChar n

/-- The escapes of `serde_json`. -/
def escapeChar (c : Char) : Text :=
  if c = '"' then ['\\', '"']
  else if c = '\\' then ['\\', '\\']
  else if c.toNat = 8 then ['\\', 'b']
  else if c.toNat = 9 then ['\\', 't']
  else if c.toNat = 10 then ['\\', 'n']
  else if c.toNat = 12 then ['\\', 'f']
  else if c.toNat = 13 then ['\\', 'r']
  else if c.toNat < 32 then
    ['\\', 'u', '0', '0', hexDigit (c.toNat / 16), hexDigit (c.toNat % 16)]
  else [c]

/-- A string, with escapes. -/
def renderString (value : Text) : Text := ['"'] ++ value.flatMap escapeChar ++ ['"']

/-- A number as it is written. -/
def renderNumber : JsonNumber → Text
  | .posInt value => Text.decimal value
  | .negInt magnitude => '-' :: Text.decimal magnitude
  | .float written => written

mutual

/-- `Value::to_string`. -/
def render : Json → Text
  | null => text "null"
  | bool value => if value then text "true" else text "false"
  | number value => renderNumber value
  | string value => renderString value
  | array values => ['['] ++ renderValues values ++ [']']
  | object fields => ['{'] ++ renderFields fields ++ ['}']

/-- The values of an array, separated by commas. -/
def renderValues : List Json → Text
  | [] => []
  | [value] => render value
  | value :: values => render value ++ [','] ++ renderValues values

/-- The fields of an object, separated by commas. -/
def renderFields : List (Text × Json) → Text
  | [] => []
  | [(key, value)] => renderString key ++ [':'] ++ render value
  | (key, value) :: fields =>
      renderString key ++ [':'] ++ render value ++ [','] ++ renderFields fields

end

/-! ## Conversions -/

/-- `snake_key_to_camel`, with the flag of its loop. -/
def camelChars : Bool → Text → Text
  | _, [] => []
  | uppercaseNext, ch :: rest =>
      if ch = '_' then camelChars true rest
      else if uppercaseNext then ch.toUpper :: camelChars false rest
      else ch :: camelChars false rest

/-- `snake_key_to_camel`; a key without an underscore stays. -/
def snakeKeyToCamel (key : Text) : Text := if '_' ∈ key then camelChars false key else key

mutual

/-- `snake_to_camel_json`: every key, at every depth. -/
def snakeToCamelJson : Json → Json
  | object fields => object (JsonMap.ofFields (camelFields fields))
  | array values => array (camelValues values)
  | other => other

/-- The same on the values of an array. -/
def camelValues : List Json → List Json
  | [] => []
  | value :: values => snakeToCamelJson value :: camelValues values

/-- The same on the fields of an object. -/
def camelFields : List (Text × Json) → List (Text × Json)
  | [] => []
  | (key, value) :: fields => (snakeKeyToCamel key, snakeToCamelJson value) :: camelFields fields

end

mutual

/-- The keys of every object in order. -/
def sortObject : Json → Json
  | object fields => object (JsonMap.ofFields (sortFields fields))
  | array values => array (sortValues values)
  | other => other

/-- The same on the values of an array. -/
def sortValues : List Json → List Json
  | [] => []
  | value :: values => sortObject value :: sortValues values

/-- The same on the fields of an object. -/
def sortFields : List (Text × Json) → List (Text × Json)
  | [] => []
  | (key, value) :: fields => (key, sortObject value) :: sortFields fields

end

end Json

end Ga4Mcp.Tools
