/-!
# TOML values

The values that a TOML document holds. Integers have 64 bits with a sign. Of floats only the
spelling is kept, and of date-times the canonical one, since nothing here computes with them. A
table has each of its keys once.
-/

namespace KotlinLint.Toml

/-- A TOML value. -/
inductive Value where
  | string (value : String)
  | integer (value : Int)
  | float (spelling : String)
  | boolean (value : Bool)
  | datetime (spelling : String)
  | array (items : List Value)
  | table (entries : List (String × Value))

/-- The entries of a table, each key once. -/
abbrev Table := List (String × Value)

namespace Value

/-- The name of a value's type. -/
def typeName : Value → String
  | string _ => "string"
  | integer _ => "integer"
  | float _ => "float"
  | boolean _ => "boolean"
  | datetime _ => "datetime"
  | array _ => "array"
  | table _ => "table"

/-- The text of a string value. -/
def string? : Value → Option String
  | string value => some value
  | _ => none

end Value

end KotlinLint.Toml
