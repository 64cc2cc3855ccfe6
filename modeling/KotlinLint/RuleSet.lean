import KotlinLint.Config
import KotlinLint.Rule
import KotlinLint.Text.Shown

/-!
# Rule sets

A rule set runs its rules over a file one after the other. Made from a configuration, it leaves
out the rules that are switched off and gives the findings of a rule the severity that the
configuration asks for.
-/

namespace KotlinLint

/-- A named list of rules. -/
structure RuleSet where
  id : String
  /-- The rules in the order in which they run. -/
  rules : List Rule := []
  /-- The severities that findings are given, by rule. -/
  severities : List (String × Severity) := []

namespace RuleSet

/-- The identifiers of the rules. -/
def ruleIds (set : RuleSet) : List String := set.rules.map Rule.id

/-- Add a rule at the end. -/
def push (set : RuleSet) (rule : Rule) : RuleSet := { set with rules := set.rules ++ [rule] }

/-- The rules of a list that a configuration lets run, with their severities. -/
def ofConfig (id : String) (config : Config) (rules : List Rule) : RuleSet :=
  let active := rules.filter fun rule => config.isRuleActive rule.id
  { id := id
    rules := active
    severities := active.filterMap fun rule => (config.severity? rule.id).map (rule.id, ·) }

/-- What there is to report about the rules that a configuration leaves out. -/
def skipEvents (config : Config) (rules : List Rule) : List Event :=
  (rules.filter fun rule => !config.isRuleActive rule.id).map fun rule => .skippedRule rule.id

/-- The report of one rule of the set on a file. -/
def checkRule (set : RuleSet) (file : File) (rule : Rule) : Report :=
  let report := rule.visitAll file
  let findings :=
    match set.severities.lookup rule.id with
    | none => report.findings
    | some severity => report.findings.map (·.withSeverity severity)
  let summary : List Event :=
    if findings.isEmpty then [] else [.reported rule.id findings.length file.path]
  ⟨findings, report.events ++ summary⟩

/-- The report of all rules on a file, rule by rule. -/
def check (set : RuleSet) (file : File) : Report :=
  Report.concat (set.rules.map (set.checkRule file))

/-- The rule set as data: its identifier and those of its rules. -/
def shown (set : RuleSet) : String :=
  let id := Text.shown set.id
  let rules := Text.shownList set.ruleIds
  "RuleSet \x7b id: " ++ id ++ ", rules: " ++ rules ++ ", .. \x7d"

end RuleSet

end KotlinLint
