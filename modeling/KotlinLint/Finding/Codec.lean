import KotlinLint.Finding
import KotlinLint.Json

/-!
# Issues and findings as JSON

Issues and findings are written as objects; a finding without a reference has no field for it.
Reading accepts the fields in any order and passes over unknown ones. Lines, columns, offsets
and lengths have 64 bits, minutes have 32.
-/

namespace KotlinLint

/-- The number of values of a line, column, offset or length. -/
def Location.bound : Nat := Nat.pow 2 64

/-- The number of values of a time in minutes. -/
def Debt.bound : Nat := Nat.pow 2 32

namespace Severity

/-- A severity is written as its name. -/
def toJson (severity : Severity) : Json := .string severity.name

/-- A severity is read from its name, or from an object whose only field has that name and
nothing in it. -/
def ofJson? : Json → Option Severity
  | .string name => ofName? name
  | .object [(name, .null)] => ofName? name
  | _ => none

end Severity

namespace Debt

/-- A time is written as an object with its minutes. -/
def toJson (debt : Debt) : Json := .object [("mins", .ofNat debt.minutes)]

/-- Read a time. -/
def ofJson? (json : Json) : Option Debt := do
  let field ← json.record? ["mins"]
  let minutes ← (field "mins").bind (Json.natBelow? bound)
  return ⟨minutes⟩

end Debt

namespace Issue

/-- An issue as an object. -/
def toJson (issue : Issue) : Json :=
  .object [("id", .string issue.id), ("severity", issue.severity.toJson),
    ("description", .string issue.description), ("debt", issue.debt.toJson)]

/-- Read an issue. -/
def ofJson? (json : Json) : Option Issue := do
  let field ← json.record? ["id", "severity", "description", "debt"]
  let id ← (field "id").bind Json.string?
  let severity ← (field "severity").bind Severity.ofJson?
  let description ← (field "description").bind Json.string?
  let debt ← (field "debt").bind Debt.ofJson?
  return ⟨id, severity, description, debt⟩

end Issue

namespace Location

/-- A place as an object. -/
def toJson (location : Location) : Json :=
  .object [("file", .string location.file), ("line", .ofNat location.line),
    ("column", .ofNat location.column), ("offset", .ofNat location.offset),
    ("length", .ofNat location.length)]

/-- Read a place. -/
def ofJson? (json : Json) : Option Location := do
  let field ← json.record? ["file", "line", "column", "offset", "length"]
  let file ← (field "file").bind Json.string?
  let line ← (field "line").bind (Json.natBelow? bound)
  let column ← (field "column").bind (Json.natBelow? bound)
  let offset ← (field "offset").bind (Json.natBelow? bound)
  let length ← (field "length").bind (Json.natBelow? bound)
  return ⟨file, line, column, offset, length⟩

end Location

namespace Finding

/-- A finding as an object, without a field for a reference that it does not have. -/
def toJson (finding : Finding) : Json :=
  let reference :=
    match finding.docRef with
    | none => []
    | some docRef => [("doc_ref", .string docRef)]
  .object ([("rule", .string finding.rule), ("severity", finding.severity.toJson),
    ("location", finding.location.toJson), ("message", .string finding.message)] ++ reference)

/-- Read a finding; only the reference may be missing. -/
def ofJson? (json : Json) : Option Finding := do
  let field ← json.record? ["rule", "severity", "location", "message", "doc_ref"]
  let rule ← (field "rule").bind Json.string?
  let severity ← (field "severity").bind Severity.ofJson?
  let location ← (field "location").bind Location.ofJson?
  let message ← (field "message").bind Json.string?
  let docRef ← Json.optionalString? (field "doc_ref")
  return ⟨rule, severity, location, message, docRef⟩

end Finding

end KotlinLint
