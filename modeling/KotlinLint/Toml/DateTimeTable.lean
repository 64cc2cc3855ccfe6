import KotlinLint.Toml.DateTime

/-!
# Date-times as tables

A date-time and a table with its text under a key of its own stand for each other. Where a table
is expected a date-time counts as that table (`Value.entries?`), and a value that may be of any
type is a date-time when it is a table that begins with the key (`Value.resolve?`).
-/

namespace KotlinLint.Toml

/-- The key under which a table that stands for a date-time has its text. -/
def dateTimeKey : String := "$__toml_private_datetime"

/-- Whether a table begins with the key of date-times. -/
def beginsAsDateTime (entries : Table) : Bool := entries.head?.any (·.1 = dateTimeKey)

/-- The date-time that stands as a string in the only entry of a table. -/
def onlyDateTime? : Table → Option Value
  | [(_, .string text)] => dateTime? text.toList
  | _ => none

namespace Value

/-- The entries of a table, or of the table that a date-time stands for. -/
def entries? : Value → Option Table
  | table entries => some entries
  | datetime spelling => some [(dateTimeKey, .string spelling)]
  | _ => none

mutual

/-- The value with a date-time in place of every table that begins with the key of date-times.
There is none when such a table stands for no date-time. -/
def resolve? : Value → Option Value
  | array items => (resolveItems? items).map array
  | table entries =>
    if beginsAsDateTime entries then onlyDateTime? entries
    else (resolveEntries? entries).map table
  | value => some value

/-- The items of an array, each resolved. -/
def resolveItems? : List Value → Option (List Value)
  | [] => some []
  | item :: rest => do return (← item.resolve?) :: (← resolveItems? rest)

/-- The entries of a table, each with its value resolved. -/
def resolveEntries? : List (String × Value) → Option Table
  | [] => some []
  | (key, value) :: rest => do return (key, ← value.resolve?) :: (← resolveEntries? rest)

end

end Value

end KotlinLint.Toml
