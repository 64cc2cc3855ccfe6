import KotlinLint.RuleSet
import KotlinLint.Rules.ContextLeak
import KotlinLint.Rules.DiscriminatorClash

/-!
# The provided rule set

The rules that a configuration gives, and the rule set of those that it lets run.
-/

namespace KotlinLint.Decompose

/-- The identifier of the rule set. -/
def ruleSetId : String := "DecomposeRuleSet"

/-- All rules, active or not, or why the options of one cannot be used. -/
def rules (config : Config) : Except ConfigError (List Rule) :=
  (DiscriminatorClash.discriminator? config).map fun discriminator =>
    [ContextLeak.rule, DiscriminatorClash.rule discriminator]

/-- The rule set of the active rules. -/
def ruleSet (config : Config) : Except ConfigError RuleSet :=
  (rules config).map (RuleSet.ofConfig ruleSetId config)

/-- What there is to report about making the rule set. -/
def ruleSetEvents (config : Config) : List Event :=
  match rules config with
  | .error _ => []
  | .ok rules =>
    RuleSet.skipEvents config rules ++
      [.activeRules ruleSetId (RuleSet.ofConfig ruleSetId config rules).ruleIds]

end KotlinLint.Decompose
