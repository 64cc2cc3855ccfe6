import KotlinLint.Text.Shown

/-!
# Events

What the linter does is reported as it goes by events of three levels. An event says what
happened; its message is its wording.
-/

namespace KotlinLint

/-- How much an event matters. -/
inductive EventLevel where
  | trace
  | debug
  | warn
deriving DecidableEq

/-- The name of a level. -/
def EventLevel.name : EventLevel → String
  | trace => "trace"
  | debug => "debug"
  | warn => "warn"

/-- Something that happened on the way to an answer. -/
inductive Event where
  /-- The source of a file has syntax errors. -/
  | syntaxErrors (path : String)
  /-- A rule is left out of a rule set because it is not active. -/
  | skippedRule (rule : String)
  /-- A rule set has been made of these rules. -/
  | activeRules (ruleSet : String) (rules : List String)
  /-- A rule passes over a file, or a part of it, because an import is missing. -/
  | missingImport (path imported : String)
  /-- A rule has found something in a file. -/
  | reported (rule : String) (count : Nat) (path : String)
deriving DecidableEq

namespace Event

/-- How much an event matters. -/
def level : Event → EventLevel
  | syntaxErrors _ => .warn
  | skippedRule _ => .debug
  | activeRules _ _ => .debug
  | missingImport _ _ => .trace
  | reported _ _ _ => .debug

/-- The wording of an event. -/
def message : Event → String
  | syntaxErrors path => s!"Syntax errors in {path}, lowering partial tree"
  | skippedRule rule => s!"Skipping inactive rule: {rule}"
  | activeRules ruleSet rules => s!"{ruleSet} active rules: {Text.shownList rules}"
  | missingImport path imported => s!"{path} does not import {imported}"
  | reported rule count path => s!"{rule} reported {count} finding(s) in {path}"

end Event

end KotlinLint
