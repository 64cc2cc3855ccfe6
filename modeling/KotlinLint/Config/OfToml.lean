import KotlinLint.Config
import KotlinLint.Toml.DateTimeTable
import KotlinLint.Toml.Document

/-!
# Configurations from TOML

The table `ruleset` switches the rule set, and the table `rules` holds a table for each
configured rule. In it `active` and `severity` have a meaning for every rule, and all other keys
are options. Unknown keys elsewhere do not matter; a known one with a value of another type
makes the whole configuration malformed. Where a table is expected a date-time counts as one,
and a table that is an option may be a date-time.
-/

namespace KotlinLint

open Toml

namespace Config

/-- A switch that may be missing. -/
def switch? : Option Value → Option (Option Bool)
  | none => some none
  | some (.boolean active) => some (some active)
  | some _ => none

/-- A severity is given by its name, or by a table whose only key is the name and whose only
value is an empty table or array. -/
def severityOf? : Value → Option Severity
  | .string name => Severity.ofName? name
  | .table [(name, .table [])] => Severity.ofName? name
  | .table [(name, .array [])] => Severity.ofName? name
  | _ => none

/-- A severity that may be missing. -/
def optionalSeverity? : Option Value → Option (Option Severity)
  | none => some none
  | some value => (severityOf? value).map some

/-- The switch of the rule set, which is on when it is missing. It stands in a table, or first
in an array, of which the other items do not matter. -/
def ruleSetSwitch? : Option Value → Option Bool
  | none => some true
  | some (.array items) => (switch? items.head?).map (·.getD true)
  | some value => do
    let active ← switch? ((← value.entries?).lookup "active")
    return active.getD true

/-- Whether a key of a rule's table is an option. -/
def isOptionKey (key : String) : Bool := key ≠ "active" && key ≠ "severity"

/-- The configuration of one rule. -/
def ruleOf? (value : Value) : Option RuleConfig := do
  let entries ← value.entries?
  let active ← switch? (entries.lookup "active")
  let severity ← optionalSeverity? (entries.lookup "severity")
  let options ← Value.resolveEntries? (entries.filter fun entry => isOptionKey entry.1)
  return ⟨active, severity, options⟩

/-- The configurations of rules, by identifier. -/
def rulesOf? : Option Value → Option (List (String × RuleConfig))
  | none => some []
  | some value => do (← value.entries?).mapM fun (id, value) => (ruleOf? value).map (id, ·)

/-- The configuration that a document holds. -/
def ofToml? (document : Table) : Option Config := do
  let active ← ruleSetSwitch? (document.lookup "ruleset")
  let rules ← rulesOf? (document.lookup "rules")
  return ⟨active, rules⟩

/-- Read a configuration. -/
def read (text : String) : Except ConfigError Config :=
  match (Toml.parse? text).bind ofToml? with
  | none => .error .malformed
  | some config => .ok config

/-- Read a configuration from the bytes of a file, which are missing when it cannot be read. -/
def ofBytes (content : Option ByteArray) : Except ConfigError Config :=
  match content.bind String.fromUTF8? with
  | none => .error .unreadable
  | some text => read text

end Config

end KotlinLint
