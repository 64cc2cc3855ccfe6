import KotlinLint.Proofs.Decompose

/-!
# What the provided rule set reads from a configuration

Of all that a configuration says, the provided rule set reads whether the set and its two rules
are switched off, the severities of these rules, and one option, the discriminator. So there is no
rule set exactly when this option is set to something else than a text that is not empty, whether
any rule runs or not, and configurations that agree in what is read give the same rule set
(`Decompose.ruleSet_eq_of_agree`).
-/

namespace KotlinLint

/-- Whether a rule is left on by what is said of it alone; it is unless it is switched off. -/
def Config.leavesOn (config : Config) (id : String) : Bool :=
  ((config.rules.lookup id).bind (·.active)).getD true

/-- A rule runs when the rule set is not switched off and the rule is left on. -/
theorem Config.isRuleActive_eq (config : Config) (id : String) :
    config.isRuleActive id = (config.active && config.leavesOn id) := rfl

/-- Configurations that agree about some rules let the same of them run, with the same
severities. -/
theorem RuleSet.ofConfig_eq_of_agree {first second : Config} {rules : List Rule} (id : String)
    (active : ∀ rule ∈ rules, first.isRuleActive rule.id = second.isRuleActive rule.id)
    (severities : ∀ rule ∈ rules, first.severity? rule.id = second.severity? rule.id) :
    ofConfig id first rules = ofConfig id second rules := by
  have running : rules.filter (fun rule => first.isRuleActive rule.id) =
      rules.filter (fun rule => second.isRuleActive rule.id) :=
    List.filter_congr active
  have severe : (rules.filter fun rule => second.isRuleActive rule.id).filterMap
        (fun rule => (first.severity? rule.id).map (rule.id, ·)) =
      (rules.filter fun rule => second.isRuleActive rule.id).filterMap
        (fun rule => (second.severity? rule.id).map (rule.id, ·)) := by
    apply List.filterMap_congr
    intro rule runs
    rw [severities rule (List.mem_of_mem_filter runs)]
  rw [ofConfig, ofConfig, running, severe]

namespace DiscriminatorClash

/-- The value to which a configuration sets the discriminator. -/
def optionValue? (config : Config) : Option Toml.Value :=
  (config.rules.lookup "SerializableDiscriminatorRule").bind
    (·.options.lookup "classDiscriminator")

/-- Whether a value is a text that is not empty. -/
def IsUsable (value : Toml.Value) : Prop := ∃ text, value = .string text ∧ text ≠ ""

/-- What is wrong with a value. -/
inductive HasFault : Toml.Value → OptionFault → Prop where
  /-- It is the empty text. -/
  | empty : HasFault (.string "") .empty
  /-- It is of another type than texts. -/
  | notString {value : Toml.Value} : (∀ text, value ≠ .string text) →
      HasFault value (.notString value.typeName)

/-- Something is wrong with a value exactly when it is not a text or empty. -/
theorem exists_hasFault_iff (value : Toml.Value) :
    (∃ fault, HasFault value fault) ↔ ¬ IsUsable value := by
  constructor
  · intro faulty usable
    obtain ⟨fault, wrong⟩ := faulty
    obtain ⟨text, isText, nonempty⟩ := usable
    cases wrong with
    | empty => exact nonempty (Toml.Value.string.inj isText).symm
    | notString other => exact other text isText
  · intro unusable
    by_cases isText : ∃ text, value = .string text
    · obtain ⟨text, rfl⟩ := isText
      have isEmpty : text = "" := by
        by_contra nonempty
        exact unusable ⟨text, rfl, nonempty⟩
      subst isEmpty
      exact ⟨_, .empty⟩
    · exact ⟨_, .notString fun text same => isText ⟨text, same⟩⟩

/-- The discriminator that a value gives. -/
def ofValue (value : Toml.Value) : Except ConfigError String :=
  match value.string? with
  | none => .error (.invalidOption ruleId optionKey (.notString value.typeName))
  | some text => if text.isEmpty then .error (.invalidOption ruleId optionKey .empty) else .ok text

/-- A value gives no discriminator when something is wrong with it, and the error says what. -/
theorem ofValue_eq_error_iff (value : Toml.Value) (error : ConfigError) :
    ofValue value = .error error ↔
      ∃ fault, HasFault value fault ∧ error = .invalidOption ruleId optionKey fault := by
  by_cases isText : ∃ text, value = .string text
  · obtain ⟨text, rfl⟩ := isText
    by_cases isEmpty : text = ""
    · subst isEmpty
      constructor
      · intro refused
        exact ⟨.empty, .empty, (Except.error.inj refused).symm⟩
      · intro faulty
        obtain ⟨fault, wrong, rfl⟩ := faulty
        cases wrong with
        | empty => rfl
        | notString other => exact absurd rfl (other "")
    · have accepted : ofValue (.string text) = .ok text := by
        rw [ofValue, Toml.Value.string?]
        exact if_neg (by simpa using isEmpty)
      rw [accepted]
      constructor
      · intro refused
        cases refused
      · intro faulty
        obtain ⟨fault, wrong, _⟩ := faulty
        exact absurd ⟨text, rfl, isEmpty⟩ ((exists_hasFault_iff _).mp ⟨fault, wrong⟩)
  · have other : ∀ text, value ≠ .string text := fun text same => isText ⟨text, same⟩
    have refusal : ofValue value =
        .error (.invalidOption ruleId optionKey (.notString value.typeName)) := by
      cases value with
      | string text => exact absurd rfl (other text)
      | _ => rfl
    rw [refusal]
    constructor
    · intro refused
      exact ⟨_, .notString other, (Except.error.inj refused).symm⟩
    · intro faulty
      obtain ⟨fault, wrong, rfl⟩ := faulty
      cases wrong with
      | empty => exact absurd rfl (other "")
      | notString _ => rfl

/-- The discriminator is the default unless the option is set; then its value gives it. -/
theorem discriminator?_eq (config : Config) : discriminator? config =
    ((optionValue? config).map ofValue).getD (.ok defaultDiscriminator) := by
  have option : optionValue? config =
      (config.rule? ruleId).bind (·.options.lookup optionKey) := rfl
  rw [discriminator?, option]
  cases config.rule? ruleId with
  | none => rfl
  | some settings =>
    show settings.requireString ruleId optionKey defaultDiscriminator =
      ((settings.options.lookup optionKey).map ofValue).getD (.ok defaultDiscriminator)
    rw [RuleConfig.requireString]
    cases settings.options.lookup optionKey <;> rfl

end DiscriminatorClash

namespace Decompose

open DiscriminatorClash

/-- Whether two configurations agree in all that the provided rule set reads from them. -/
structure AgreeOnRules (first second : Config) : Prop where
  /-- Both switch the rule set off or neither does. -/
  active : first.active = second.active
  /-- Both leave the same rules on. -/
  leavesOn : ∀ id ∈ ["DecomposeComponentContextRule", "SerializableDiscriminatorRule"],
    first.leavesOn id = second.leavesOn id
  /-- Both say the same of the severities of the rules. -/
  severities : ∀ id ∈ ["DecomposeComponentContextRule", "SerializableDiscriminatorRule"],
    (first.rules.lookup id).bind (·.severity) = (second.rules.lookup id).bind (·.severity)
  /-- Both set the discriminator to one value or neither sets it. -/
  discriminator : optionValue? first = optionValue? second

/-- There is no rule set when something is wrong with the value of the discriminator, and only
then. -/
theorem ruleSet_eq_error_iff (config : Config) (error : ConfigError) :
    ruleSet config = .error error ↔ ∃ value fault, optionValue? config = some value ∧
      HasFault value fault ∧ error = .invalidOption ruleId optionKey fault := by
  have refused : ruleSet config = .error error ↔ discriminator? config = .error error := by
    rw [ruleSet, rules]
    cases discriminator? config with
    | error fault =>
      constructor
      · intro same
        exact congrArg Except.error (Except.error.inj same)
      · intro same
        exact congrArg Except.error (Except.error.inj same)
    | ok discriminator =>
      constructor
      · intro same
        cases same
      · intro same
        cases same
  rw [refused, discriminator?_eq]
  cases optionValue? config with
  | none => simp
  | some value => simpa using ofValue_eq_error_iff value error

/-- Configurations that agree in what the provided rule set reads give the same rule set, or the
same error. -/
theorem ruleSet_eq_of_agree {first second : Config} (agree : AgreeOnRules first second) :
    ruleSet first = ruleSet second := by
  have options : discriminator? first = discriminator? second := by
    rw [discriminator?_eq, discriminator?_eq, agree.discriminator]
  rw [ruleSet, ruleSet, rules, rules, options]
  cases discriminator? second with
  | error fault => rfl
  | ok discriminator =>
    have known : ∀ rule ∈ [ContextLeak.rule, DiscriminatorClash.rule discriminator],
        rule.id ∈ ["DecomposeComponentContextRule", "SerializableDiscriminatorRule"] :=
      fun _ provided => List.mem_map_of_mem provided
    have active : ∀ rule ∈ [ContextLeak.rule, DiscriminatorClash.rule discriminator],
        first.isRuleActive rule.id = second.isRuleActive rule.id := by
      intro rule provided
      rw [Config.isRuleActive_eq, Config.isRuleActive_eq, agree.active,
        agree.leavesOn rule.id (known rule provided)]
    have severities : ∀ rule ∈ [ContextLeak.rule, DiscriminatorClash.rule discriminator],
        first.severity? rule.id = second.severity? rule.id :=
      fun rule provided => agree.severities rule.id (known rule provided)
    exact congrArg Except.ok (RuleSet.ofConfig_eq_of_agree ruleSetId active severities)

/-- There is no rule set exactly when the discriminator is set to something else than a text that
is not empty, and the error names the option. Configurations that agree in what the provided rule
set reads are refused alike, or give rule sets that report the same on every file. -/
theorem ruleSet_reads_config (config : Config) :
    ((∃ error, ruleSet config = .error error) ↔
      ∃ value, optionValue? config = some value ∧ ¬ IsUsable value) ∧
    (∀ error, ruleSet config = .error error → ∃ fault,
      error = .invalidOption "SerializableDiscriminatorRule" "classDiscriminator" fault) ∧
    ∀ other, AgreeOnRules config other →
      (∃ error, ruleSet config = .error error ∧ ruleSet other = .error error) ∨
      ∃ set otherSet, ruleSet config = .ok set ∧ ruleSet other = .ok otherSet ∧
        ∀ file, set.check file = otherSet.check file := by
  refine ⟨?_, ?_, ?_⟩
  · constructor
    · intro refused
      obtain ⟨error, refused⟩ := refused
      obtain ⟨value, fault, isSet, wrong, _⟩ := (ruleSet_eq_error_iff config error).mp refused
      exact ⟨value, isSet, (exists_hasFault_iff value).mp ⟨fault, wrong⟩⟩
    · intro unusable
      obtain ⟨value, isSet, unusable⟩ := unusable
      obtain ⟨fault, wrong⟩ := (exists_hasFault_iff value).mpr unusable
      exact ⟨_, (ruleSet_eq_error_iff config _).mpr ⟨value, fault, isSet, wrong, rfl⟩⟩
  · intro error refused
    obtain ⟨value, fault, _, _, named⟩ := (ruleSet_eq_error_iff config error).mp refused
    exact ⟨fault, named⟩
  · intro other agree
    rw [← ruleSet_eq_of_agree agree]
    cases ruleSet config with
    | error error => exact .inl ⟨error, rfl, rfl⟩
    | ok set => exact .inr ⟨set, set, rfl, rfl, fun _ => rfl⟩

/-- A configuration that sets the discriminator and a severity. -/
def kindConfig : Config where
  rules := [("SerializableDiscriminatorRule",
    { active := some true
      severity := some .error
      options := [("classDiscriminator", .string "kind")] })]

/-- A configuration that says the same to the provided rules and more to others. -/
def crowdedConfig : Config where
  rules := [
    ("DecomposeComponentContextRule",
      { active := some true, options := [("classDiscriminator", .integer 1)] }),
    ("OtherRule", { active := some false, severity := some .info }),
    ("SerializableDiscriminatorRule",
      { severity := some .error
        options := [("depth", .integer 3), ("classDiscriminator", .string "kind")] })]

/-- Tables and options that no provided rule reads change nothing: both configurations give rule
sets, which report the same. -/
theorem crowdedConfig_reports_as_kindConfig :
    AgreeOnRules kindConfig crowdedConfig ∧
      ∃ set otherSet, ruleSet kindConfig = .ok set ∧ ruleSet crowdedConfig = .ok otherSet ∧
        ∀ file, set.check file = otherSet.check file := by
  have agree : AgreeOnRules kindConfig crowdedConfig :=
    { active := rfl, leavesOn := by decide, severities := by decide, discriminator := rfl }
  obtain ⟨refusal, _, alike⟩ := ruleSet_reads_config kindConfig
  refine ⟨agree, ?_⟩
  rcases alike crowdedConfig agree with ⟨error, refused, _⟩ | reports
  · obtain ⟨value, isSet, unusable⟩ := refusal.mp ⟨error, refused⟩
    have kind : value = .string "kind" := (Option.some.inj isSet).symm
    exact absurd ⟨"kind", kind, by decide⟩ unusable
  · exact reports

end Decompose

end KotlinLint
