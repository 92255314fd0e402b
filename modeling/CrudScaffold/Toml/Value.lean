/-! Values of a TOML document. A table keeps its keys in the order they were written; an
inline table is a table written on one line, and a datetime is kept as written. -/

namespace CrudScaffold.Toml

/-- A TOML value. -/
inductive Value where
  | string (s : String)
  | integer (i : Int)
  | float (x : Float)
  | boolean (b : Bool)
  | datetime (text : String)
  | array (items : List Value)
  | table (entries : List (String × Value))
deriving Inhabited

/-- The word for the type of a value, as messages about it use. -/
def Value.typeName : Value → String
  | .string _ => "string"
  | .integer _ => "integer"
  | .float _ => "float"
  | .boolean _ => "boolean"
  | .datetime _ => "datetime"
  | .array _ => "array"
  | .table _ => "inline table"

end CrudScaffold.Toml
