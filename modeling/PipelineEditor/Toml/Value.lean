/-!
TOML values: the data a TOML document describes.

A document is a table of keys to values; a value is a string, an integer, a float, a boolean,
a date or time (kept as its text, since nothing here reads inside one), an array, or a table.
Tables keep their keys in the order the document gives them.
-/

namespace PipelineEditor

/-- A TOML value. -/
inductive TomlValue where
  | string (text : String)
  | integer (value : Int)
  | float (value : Float)
  | boolean (value : Bool)
  | datetime (text : String)
  | array (items : List TomlValue)
  | table (entries : List (String × TomlValue))
  deriving Inhabited

namespace TomlValue

/-- The value of a key of a table, and nothing for any other value. -/
def field? : TomlValue → String → Option TomlValue
  | .table entries, key => entries.lookup key
  | _, _ => none

/-- The text of a string value. -/
def asString? : TomlValue → Option String
  | .string text => some text
  | _ => none

/-- The name of a value's type, as the format's documents name it. -/
def typeName : TomlValue → String
  | .string _ => "string"
  | .integer _ => "integer"
  | .float _ => "float"
  | .boolean _ => "boolean"
  | .datetime _ => "datetime"
  | .array _ => "array"
  | .table _ => "table"

end TomlValue

end PipelineEditor
