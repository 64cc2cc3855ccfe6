import KotlinLint.RuleSet
import Mathlib.Data.List.Infix

/-!
# Findings of rule sets, rule by rule

A rule set keeps the severities that a configuration asks for in one table for all of its rules.
A rule finds its own severity there, whatever other rules are in the set
(`lookup_severities`), so a configured set finds what each of its active rules finds alone, with
the severity that is configured for that rule. Rules that are added later find what they find
after all others (`findings_push`).
-/

namespace KotlinLint.RuleSet

/-- What a rule alone finds in a file is what it answers to the visits. -/
theorem check_push_findings (id : String) (rule : Rule) (file : File) :
    ((push { id := id } rule).check file).findings = (rule.visitAll file).findings := by
  rw [check, push, List.nil_append, List.map_singleton, Report.concat, List.flatMap_singleton]
  rfl

/-- The findings of a set are those of its rules, one after the other. -/
theorem check_findings (set : RuleSet) (file : File) :
    (set.check file).findings =
      set.rules.flatMap fun rule => (set.checkRule file rule).findings := by
  rw [check, Report.concat, List.flatMap_map]

/-- A rule of a set finds what it answers to the visits, with the severity that the set has for
its identifier when it has one. -/
theorem checkRule_findings (set : RuleSet) (file : File) (rule : Rule) :
    (set.checkRule file rule).findings = (rule.visitAll file).findings.map fun finding =>
      { finding with severity := (set.severities.lookup rule.id).getD finding.severity } := by
  rw [checkRule]
  cases set.severities.lookup rule.id with
  | none => exact (List.map_id _).symm
  | some severity => rfl

/-- The table of the severities of some rules holds for an identifier what is asked for it, when
one of the rules has the identifier. -/
theorem lookup_severities (severity? : String → Option Severity) (rules : List Rule)
    (id : String) :
    (rules.filterMap fun rule => (severity? rule.id).map (rule.id, ·)).lookup id =
      if id ∈ rules.map Rule.id then severity? id else none := by
  induction rules with
  | nil => rfl
  | cons rule rest ih =>
    rw [List.map_cons, List.filterMap_cons]
    by_cases same : id = rule.id
    · -- The first entry for an identifier counts, but all its entries say the same.
      subst same
      cases asked : severity? rule.id with
      | none =>
        rw [Option.map_none, ih, asked]
        simp
      | some severity => simp
    · have later : id ∈ rule.id :: rest.map Rule.id ↔ id ∈ rest.map Rule.id := by
        simp [same]
      cases asked : severity? rule.id with
      | none => simp only [Option.map_none, later, ih]
      | some severity =>
        simp only [Option.map_some, List.lookup_cons, beq_eq_false_iff_ne.mpr same, later, ih]

/-- A rule that a configuration lets run gets the severity that is configured for it. -/
theorem ofConfig_lookup {id : String} {config : Config} {rules : List Rule} {rule : Rule}
    (runs : rule ∈ (ofConfig id config rules).rules) :
    (ofConfig id config rules).severities.lookup rule.id = config.severity? rule.id := by
  have member : rule.id ∈ (ofConfig id config rules).rules.map Rule.id :=
    List.mem_map_of_mem runs
  exact (lookup_severities config.severity? _ rule.id).trans (if_pos member)

/-- A set with one more rule finds what it found without, and then what the rule finds. -/
theorem findings_push (set : RuleSet) (rule : Rule) (file : File) :
    ((set.push rule).check file).findings =
      (set.check file).findings ++ (set.checkRule file rule).findings := by
  rw [check_findings, check_findings, push, List.flatMap_append, List.flatMap_singleton]
  rfl

/-- Findings stay in front when rules are added. -/
theorem findings_prefix_foldl_push (set : RuleSet) (added : List Rule) (file : File) :
    (set.check file).findings <+: ((added.foldl push set).check file).findings := by
  induction added generalizing set with
  | nil => exact List.prefix_refl _
  | cons rule rest ih =>
    have first : (set.check file).findings <+: ((set.push rule).check file).findings := by
      rw [findings_push]
      exact List.prefix_append _ _
    exact first.trans (ih (set.push rule))

/-- A configured set finds what each of its active rules finds alone, rule after rule and with
the severity that is configured for the rule, if one is. Rules that are added to the set change
nothing of this and find what they find afterwards. -/
theorem ofConfig_findings (id : String) (config : Config) (rules : List Rule) (file : File) :
    (∀ alone : String, ((ofConfig id config rules).check file).findings =
      (rules.filter fun rule => config.isRuleActive rule.id).flatMap fun rule =>
        ((push { id := alone } rule).check file).findings.map fun finding =>
          { finding with severity := (config.severity? rule.id).getD finding.severity }) ∧
    ∀ added : List Rule, ((ofConfig id config rules).check file).findings <+:
      ((added.foldl push (ofConfig id config rules)).check file).findings := by
  refine ⟨?_, fun added => findings_prefix_foldl_push _ added file⟩
  intro alone
  rw [check_findings]
  show List.flatMap _ (rules.filter fun rule => config.isRuleActive rule.id) = _
  apply List.flatMap_congr
  intro rule active
  rw [checkRule_findings, ofConfig_lookup active, check_push_findings]

end KotlinLint.RuleSet
