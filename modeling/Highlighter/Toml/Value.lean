import Highlighter.Decimal.Binary64
import Highlighter.Dict
import Highlighter.Toml.Datetime

/-!
# TOML values

The values of a TOML document. A table holds its entries in ascending order of their keys.
-/

namespace Highlighter.Toml

/-- A TOML value. -/
inductive Value where
  | string (value : String)
  /-- A whole number of 64 bits. -/
  | integer (value : Int)
  | float (value : Binary64)
  | boolean (value : Bool)
  | datetime (value : Datetime)
  | array (items : List Value)
  /-- Entries in ascending order of their keys. -/
  | table (entries : List (String × Value))

/-- A TOML table. -/
abbrev Table := Dict Value

namespace Value

/-- The name of the type of a value. -/
def typeName : Value → String
  | .string _ => "string"
  | .integer _ => "integer"
  | .float _ => "float"
  | .boolean _ => "boolean"
  | .datetime _ => "datetime"
  | .array _ => "array"
  | .table _ => "table"

/-- The text of a string value. -/
def string? : Value → Option String
  | .string value => some value
  | _ => none

/-- Whether the value is a table. -/
def isTable : Value → Bool
  | .table _ => true
  | _ => false

/-- Whether the value is an array that holds tables and nothing else, and at least one. -/
def isTableArray : Value → Bool
  | .array items => !items.isEmpty && items.all isTable
  | _ => false

mutual

/-- Whether two values are equal. Floating-point numbers compare as numbers, so a value that
holds `nan` is not equal to itself. -/
def equal : Value → Value → Bool
  | .string left, .string right => left == right
  | .integer left, .integer right => left == right
  | .float left, .float right => left.equal right
  | .boolean left, .boolean right => left == right
  | .datetime left, .datetime right => left == right
  | .array left, .array right => equalItems left right
  | .table left, .table right => equalEntries left right
  | _, _ => false

/-- Whether two lists of values are equal item by item. -/
def equalItems : List Value → List Value → Bool
  | [], [] => true
  | left :: lefts, right :: rights => equal left right && equalItems lefts rights
  | _, _ => false

/-- Whether two lists of entries have the same keys with equal values. -/
def equalEntries : List (String × Value) → List (String × Value) → Bool
  | [], [] => true
  | (leftKey, left) :: lefts, (rightKey, right) :: rights =>
    leftKey == rightKey && equal left right && equalEntries lefts rights
  | _, _ => false

end

end Value

end Highlighter.Toml
