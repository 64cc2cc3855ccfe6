import KotlinLint.Severity
import KotlinLint.Toml.Value

/-!
# Configurations

A configuration switches the whole rule set or single rules off, overrides the severity of a
rule's findings and holds options that the rules read themselves.
-/

namespace KotlinLint

/-- The configuration of one rule. -/
structure RuleConfig where
  /-- Whether the rule runs, when it is said. -/
  active : Option Bool := none
  /-- The severity of the rule's findings, when it is said. -/
  severity : Option Severity := none
  /-- What else is set for the rule. -/
  options : Toml.Table := []

/-- A configuration; the one without fields set is the default. -/
structure Config where
  /-- Whether any rule runs. -/
  active : Bool := true
  /-- The configured rules by identifier, each once. -/
  rules : List (String × RuleConfig) := []

/-- What is wrong with the value of an option. -/
inductive OptionFault where
  | empty
  /-- The value has another type, of this name. -/
  | notString (found : String)
deriving DecidableEq

/-- Why there is no configuration, or no rule for one. -/
inductive ConfigError where
  /-- The file cannot be read as text. -/
  | unreadable
  /-- The text is not a configuration. -/
  | malformed
  /-- An option of a rule has a value that the rule cannot use. -/
  | invalidOption (rule key : String) (fault : OptionFault)
deriving DecidableEq

/-- The wording of a fault. -/
def OptionFault.message : OptionFault → String
  | empty => "must not be empty"
  | notString found => s!"expected a string, found {found}"

namespace ConfigError

/-- The code of an error's kind. -/
def code : ConfigError → String
  | unreadable => "decompose_lint::config::io"
  | malformed => "decompose_lint::config::parse"
  | invalidOption _ _ _ => "decompose_lint::config::invalid_option"

/-- What to do about an error. -/
def help : ConfigError → Option String
  | invalidOption _ _ _ => some "see the rule documentation for accepted values"
  | _ => none

/-- The wording of an error that has a wording of its own. -/
def message : ConfigError → Option String
  | invalidOption rule key fault => some s!"Invalid option {rule}.{key}: {fault.message}"
  | _ => none

end ConfigError

namespace RuleConfig

/-- A string option, or a default for one that is missing or no string. -/
def getString (config : RuleConfig) (key default : String) : String :=
  ((config.options.lookup key).bind Toml.Value.string?).getD default

/-- A string option that must not be empty, or a default for one that is missing. The rule is
the one to name in the error. -/
def requireString (config : RuleConfig) (rule key default : String) :
    Except ConfigError String :=
  match config.options.lookup key with
  | none => .ok default
  | some value =>
    match value.string? with
    | none => .error (.invalidOption rule key (.notString value.typeName))
    | some text => if text.isEmpty then .error (.invalidOption rule key .empty) else .ok text

end RuleConfig

namespace Config

/-- The configuration of a rule. -/
def rule? (config : Config) (id : String) : Option RuleConfig := config.rules.lookup id

/-- Whether a rule runs: neither the rule set nor the rule is switched off. -/
def isRuleActive (config : Config) (id : String) : Bool :=
  config.active && ((config.rule? id).bind (·.active)).getD true

/-- The severity to give to the findings of a rule. -/
def severity? (config : Config) (id : String) : Option Severity :=
  (config.rule? id).bind (·.severity)

end Config

end KotlinLint
