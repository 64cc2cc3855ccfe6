import KotlinLint.Config.OfToml
import KotlinLint.Proofs.Toml.DateTimeTable
import Mathlib

/-!
# What documents set

A document sets switches, severities and options. Its configuration keeps what is set
(`Config.Keeps`), and there is none exactly when a switch is no boolean, a severity is none of the
four names, or an option has a table that should stand for a date-time and does not
(`Config.settings_kept_or_refused`).
-/

namespace KotlinLint

open Toml

/-- The entries of a value that is a table. -/
def Toml.Value.table? : Value → Option Table
  | .table entries => some entries
  | _ => none

namespace Config

/-- What a document sets for the whole rule set. -/
def ruleSetSettings (document : Table) : Table :=
  ((document.lookup "ruleset").bind Value.table?).getD []

/-- The tables that a document has for rules, by identifier. -/
def ruleTables (document : Table) : Table := ((document.lookup "rules").bind Value.table?).getD []

/-- What a document sets for a rule, when it has a table for it. -/
def settings? (document : Table) (id : String) : Option Table :=
  ((ruleTables document).lookup id).bind Value.table?

/-- Whether a document has tables where settings stand, and no table for a severity. -/
structure IsShaped (document : Table) : Prop where
  ruleSet : ∀ value, document.lookup "ruleset" = some value → ∃ entries, value = .table entries
  rules : ∀ value, document.lookup "rules" = some value → ∃ entries, value = .table entries
  settings : ∀ entry ∈ ruleTables document, ∃ settings, entry.2 = .table settings ∧
    ∀ entries, settings.lookup "severity" ≠ some (.table entries)

/-- Whether settings have a switch that is no boolean. -/
def HasOddSwitch (settings : Table) : Prop :=
  ∃ value, settings.lookup "active" = some value ∧ ∀ switch, value ≠ .boolean switch

/-- Whether settings have a severity that is none of the four names. -/
def HasOddSeverity (settings : Table) : Prop :=
  ∃ value, settings.lookup "severity" = some value ∧
    ∀ severity : Severity, value ≠ .string severity.name

/-- The options among settings. -/
def optionsOf (settings : Table) : Table :=
  settings.filter fun entry => entry.1 ≠ "active" ∧ entry.1 ≠ "severity"

/-- Whether settings have an option with a table that should stand for a date-time and does not. -/
def HasMisdatedOption (settings : Table) : Prop :=
  ∃ entry ∈ optionsOf settings, entry.2.IsMisdated

/-- Whether a switch of a document is no boolean or a severity none of the four names. -/
def IsMistyped (document : Table) : Prop :=
  HasOddSwitch (ruleSetSettings document) ∨
    ∃ id settings, (id, .table settings) ∈ ruleTables document ∧
      (HasOddSwitch settings ∨ HasOddSeverity settings)

/-- Whether an option of a document has a table that should stand for a date-time and does not. -/
def IsMisdated (document : Table) : Prop :=
  ∃ id settings, (id, .table settings) ∈ ruleTables document ∧ HasMisdatedOption settings

/-- Whether settings switch off what they are for. -/
def SwitchesOff (settings : Table) : Prop := settings.lookup "active" = some (.boolean false)

/-- Whether a configuration keeps what a document sets. -/
structure Keeps (config : Config) (document : Table) : Prop where
  /-- The configured rules are those with a table. -/
  present : ∀ id, (config.rule? id).isSome = (settings? document id).isSome
  /-- A rule runs unless the rule set or the rule is switched off. -/
  active : ∀ id, config.isRuleActive id = true ↔ ¬ SwitchesOff (ruleSetSettings document) ∧
    ∀ settings, settings? document id = some settings → ¬ SwitchesOff settings
  /-- The severity of a rule is the one that is written. -/
  severity : ∀ id severity, config.severity? id = some severity ↔ ∃ settings,
    settings? document id = some settings ∧
      settings.lookup "severity" = some (.string severity.name)
  /-- The options of a rule have their keys and what their values are read as. -/
  options : ∀ id settings rule, settings? document id = some settings →
    config.rule? id = some rule → Paired (fun _ => Value.ReadsAs) (optionsOf settings) rule.options
  /-- Options are unchanged when no table in them begins with the key of date-times. -/
  unchanged : ∀ id settings rule, settings? document id = some settings →
    config.rule? id = some rule → (∀ entry ∈ optionsOf settings, entry.2.IsPlain) →
      rule.options = optionsOf settings

end Config

/-- Whether the configuration of a rule keeps what is set for it. -/
structure RuleConfig.Keeps (rule : RuleConfig) (settings : Table) : Prop where
  active : settings.lookup "active" = rule.active.map .boolean
  severity : settings.lookup "severity" = rule.severity.map fun severity => .string severity.name
  /-- The options have their keys and what their values are read as. -/
  options : Paired (fun _ => Value.ReadsAs) (Config.optionsOf settings) rule.options

namespace RuleConfig.Keeps

variable {rule : RuleConfig} {settings : Table}

/-- The severity of a rule is the one that is written. -/
theorem severity_iff (kept : rule.Keeps settings) (severity : Severity) :
    rule.severity = some severity ↔
      settings.lookup "severity" = some (.string severity.name) := by
  rw [kept.severity, Option.map_eq_some_iff]
  constructor
  · intro found
    exact ⟨severity, found, rfl⟩
  · rintro ⟨written, found, same⟩
    rw [found, Severity.name_injective (Value.string.inj same)]

/-- The options are unchanged when no table in them begins with the key of date-times. -/
theorem options_eq (kept : rule.Keeps settings)
    (plain : ∀ entry ∈ Config.optionsOf settings, entry.2.IsPlain) :
    rule.options = Config.optionsOf settings :=
  kept.options.eq_of_only fun entry listed read => ((plain entry listed).readsAs_iff read).mp

end RuleConfig.Keeps

namespace Config

/-- A switch is read when it is a boolean or missing. -/
theorem switch?_eq_some_iff {found : Option Value} {switch : Option Bool} :
    switch? found = some switch ↔ found = switch.map .boolean := by
  cases found with
  | none => cases switch <;> simp [switch?]
  | some value => cases value <;> cases switch <;> simp [switch?]

/-- A switch that is missing is on, and one that is written is off only when it says so. -/
theorem getD_true_iff {settings : Table} {switch : Option Bool}
    (written : settings.lookup "active" = switch.map .boolean) :
    switch.getD true = true ↔ ¬ SwitchesOff settings := by
  rw [SwitchesOff, written]
  cases switch <;> simp

/-- A value that is no table gives a severity when it is the name of the severity. -/
theorem severityOf?_eq_some_iff {value : Value} (noTable : ∀ entries, value ≠ .table entries)
    {severity : Severity} : severityOf? value = some severity ↔ value = .string severity.name := by
  cases value with
  | string name => rw [severityOf?, Severity.ofName?_eq_some_iff, Value.string.injEq]
  | table entries => exact absurd rfl (noTable entries)
  | _ => exact ⟨nofun, nofun⟩

/-- A severity is read when it is one of the names or missing. -/
theorem optionalSeverity?_eq_some_iff {found : Option Value}
    (noTable : ∀ entries, found ≠ some (.table entries)) {severity : Option Severity} :
    optionalSeverity? found = some severity ↔
      found = severity.map fun severity => .string severity.name := by
  cases found with
  | none => cases severity <;> simp [optionalSeverity?]
  | some value =>
    have named : ∀ severity, severityOf? value = some severity ↔ value = .string severity.name :=
      fun _ => severityOf?_eq_some_iff fun entries same => noTable entries (by rw [same])
    cases severity <;> simp [optionalSeverity?, named]

section Settings

variable {settings : Table}

/-- There is no switch to read exactly when it is no boolean. -/
theorem switch?_eq_none_iff :
    switch? (settings.lookup "active") = none ↔ HasOddSwitch settings := by
  rw [Option.eq_none_iff_forall_ne_some, HasOddSwitch]
  simp only [ne_eq, switch?_eq_some_iff, Option.forall, Option.map_none, Option.map_some]
  cases settings.lookup "active" <;> simp

/-- There is no severity to read exactly when it is none of the names. -/
theorem optionalSeverity?_eq_none_iff
    (noTable : ∀ entries, settings.lookup "severity" ≠ some (.table entries)) :
    optionalSeverity? (settings.lookup "severity") = none ↔ HasOddSeverity settings := by
  rw [Option.eq_none_iff_forall_ne_some, HasOddSeverity]
  simp only [ne_eq, optionalSeverity?_eq_some_iff noTable, Option.forall, Option.map_none,
    Option.map_some]
  cases settings.lookup "severity" <;> simp

/-- The configuration of a rule is read from a switch, a severity and options. -/
theorem ruleOf?_table (settings : Table) : ruleOf? (.table settings) =
    (switch? (settings.lookup "active")).bind fun active =>
      (optionalSeverity? (settings.lookup "severity")).bind fun severity =>
        (Value.resolveEntries? (optionsOf settings)).map fun options =>
          ⟨active, severity, options⟩ := by
  have options : (settings.filter fun entry => isOptionKey entry.1) = optionsOf settings := by
    simp [optionsOf, isOptionKey]
  rw [← options]
  simp only [Option.map_eq_bind]
  rfl

/-- The configuration of a rule is read exactly when it keeps what is set. -/
theorem ruleOf?_eq_some_iff
    (noTable : ∀ entries, settings.lookup "severity" ≠ some (.table entries)) {rule : RuleConfig} :
    ruleOf? (.table settings) = some rule ↔ rule.Keeps settings := by
  rw [ruleOf?_table]
  simp only [Option.bind_eq_some_iff, Option.map_eq_some_iff, switch?_eq_some_iff,
    optionalSeverity?_eq_some_iff noTable, Value.resolveEntries?_eq_some_iff]
  constructor
  · rintro ⟨active, isActive, severity, isSeverity, options, areOptions, rfl⟩
    exact ⟨isActive, isSeverity, areOptions⟩
  · rintro ⟨isActive, isSeverity, areOptions⟩
    exact ⟨_, isActive, _, isSeverity, _, areOptions, rfl⟩

/-- There is no configuration of a rule exactly when its switch, its severity or one of its options
is not as it should be. -/
theorem ruleOf?_eq_none_iff
    (noTable : ∀ entries, settings.lookup "severity" ≠ some (.table entries)) :
    ruleOf? (.table settings) = none ↔
      (HasOddSwitch settings ∨ HasOddSeverity settings) ∨ HasMisdatedOption settings := by
  rw [ruleOf?_table, HasMisdatedOption, ← Value.resolveEntries?_eq_none_iff, ← switch?_eq_none_iff,
    ← optionalSeverity?_eq_none_iff noTable]
  cases switch? (settings.lookup "active") <;>
    cases optionalSeverity? (settings.lookup "severity") <;>
    cases Value.resolveEntries? (optionsOf settings) <;> simp

end Settings

section Document

variable {document : Table}

/-- The switch of the rule set is read from its settings. -/
theorem IsShaped.ruleSetSwitch?_eq (shaped : IsShaped document) :
    ruleSetSwitch? (document.lookup "ruleset") =
      (switch? ((ruleSetSettings document).lookup "active")).map (·.getD true) := by
  rw [ruleSetSettings]
  cases found : document.lookup "ruleset" with
  | none => rfl
  | some value =>
    obtain ⟨entries, rfl⟩ := shaped.ruleSet value found
    rw [Option.map_eq_bind]
    rfl

/-- The configurations of rules are read from their tables. -/
theorem IsShaped.rulesOf?_eq (shaped : IsShaped document) :
    rulesOf? (document.lookup "rules") =
      (ruleTables document).mapM fun (id, value) => (ruleOf? value).map (id, ·) := by
  rw [ruleTables]
  cases found : document.lookup "rules" with
  | none => rfl
  | some value =>
    obtain ⟨entries, rfl⟩ := shaped.rules value found
    rfl

/-- There are no configurations of rules exactly when there is none of one of them. -/
theorem IsShaped.rulesOf?_eq_none_iff (shaped : IsShaped document) :
    rulesOf? (document.lookup "rules") = none ↔
      ∃ id settings, (id, .table settings) ∈ ruleTables document ∧
        ((HasOddSwitch settings ∨ HasOddSeverity settings) ∨ HasMisdatedOption settings) := by
  rw [shaped.rulesOf?_eq, mapM_eq_none_iff_exists]
  constructor
  · rintro ⟨⟨id, value⟩, listed, nothing⟩
    obtain ⟨settings, isTable, noTable⟩ := shaped.settings _ listed
    obtain rfl : value = .table settings := isTable
    exact ⟨id, settings, listed, (ruleOf?_eq_none_iff noTable).mp nothing⟩
  · rintro ⟨id, settings, listed, odd⟩
    obtain ⟨entries, isTable, noTable⟩ := shaped.settings _ listed
    obtain rfl : settings = entries := Value.table.inj isTable
    exact ⟨_, listed, (ruleOf?_eq_none_iff noTable).mpr odd⟩

/-- There is no configuration exactly when the document is mistyped or misdated. -/
theorem IsShaped.ofToml?_eq_none_iff (shaped : IsShaped document) :
    ofToml? document = none ↔ IsMistyped document ∨ IsMisdated document := by
  have whole : ofToml? document = none ↔ ruleSetSwitch? (document.lookup "ruleset") = none ∨
      rulesOf? (document.lookup "rules") = none := by
    rw [ofToml?]
    cases ruleSetSwitch? (document.lookup "ruleset") <;>
      cases rulesOf? (document.lookup "rules") <;> simp
  rw [whole, shaped.ruleSetSwitch?_eq, Option.map_eq_none_iff, switch?_eq_none_iff,
    shaped.rulesOf?_eq_none_iff]
  simp only [IsMistyped, IsMisdated, and_or_left, exists_or, or_assoc]

/-- The parts of a configuration are read from the parts of the document. -/
theorem ofToml?_eq_some {config : Config} (isRead : ofToml? document = some config) :
    ruleSetSwitch? (document.lookup "ruleset") = some config.active ∧
      rulesOf? (document.lookup "rules") = some config.rules := by
  simp only [ofToml?, Option.bind_eq_bind, Option.bind_eq_some_iff, Option.pure_def,
    Option.some.injEq] at isRead
  obtain ⟨active, isActive, rules, areRules, rfl⟩ := isRead
  exact ⟨isActive, areRules⟩

section Read

variable {config : Config}

/-- The rule set is switched on unless the document switches it off. -/
theorem IsShaped.active_iff (shaped : IsShaped document)
    (isRead : ofToml? document = some config) :
    config.active = true ↔ ¬ SwitchesOff (ruleSetSettings document) := by
  have isActive := (ofToml?_eq_some isRead).left
  rw [shaped.ruleSetSwitch?_eq] at isActive
  obtain ⟨switch, found, isSwitch⟩ := Option.map_eq_some_iff.mp isActive
  rw [← isSwitch]
  exact getD_true_iff (switch?_eq_some_iff.mp found)

/-- A rule is configured exactly when the document has a table for it, and keeps what is set. -/
theorem IsShaped.rule?_cases (shaped : IsShaped document)
    (isRead : ofToml? document = some config) (id : String) :
    settings? document id = none ∧ config.rule? id = none ∨ ∃ settings rule,
      settings? document id = some settings ∧ config.rule? id = some rule ∧
        rule.Keeps settings := by
  have areRules := (ofToml?_eq_some isRead).right
  rw [shaped.rulesOf?_eq, mapM_eq_some_iff_paired] at areRules
  have sameRule : config.rule? id = ((ruleTables document).lookup id).bind ruleOf? :=
    areRules.lookup_eq id
  rw [settings?, sameRule]
  cases found : (ruleTables document).lookup id with
  | none => exact .inl ⟨rfl, rfl⟩
  | some value =>
    have listed : (id, value) ∈ ruleTables document := mem_of_lookup_eq_some found
    obtain ⟨settings, isTable, noTable⟩ := shaped.settings _ listed
    obtain rfl : value = .table settings := isTable
    obtain ⟨rule, _, isRule⟩ := areRules.exists_of_mem _ listed
    exact .inr ⟨settings, rule, rfl, isRule, (ruleOf?_eq_some_iff noTable).mp isRule⟩

/-- A configuration keeps what its document sets. -/
theorem IsShaped.keeps (shaped : IsShaped document) (isRead : ofToml? document = some config) :
    config.Keeps document := by
  have rules := shaped.rule?_cases isRead
  have kept : ∀ id settings rule, settings? document id = some settings →
      config.rule? id = some rule → rule.Keeps settings := by
    intro id settings rule isTable isRule
    obtain ⟨noTable, _⟩ | ⟨_, _, isSame, isSameRule, kept⟩ := rules id
    · rw [noTable] at isTable
      cases isTable
    · rw [isTable, Option.some.injEq] at isSame
      rw [isRule, Option.some.injEq] at isSameRule
      rwa [isSame, isSameRule]
  constructor
  case present =>
    intro id
    obtain ⟨noTable, noRule⟩ | ⟨settings, rule, isTable, isRule, _⟩ := rules id
    · rw [noTable, noRule]
      rfl
    · rw [isTable, isRule]
      rfl
  case active =>
    intro id
    rw [isRuleActive, Bool.and_eq_true, shaped.active_iff isRead]
    refine and_congr_right fun _ => ?_
    obtain ⟨noTable, noRule⟩ | ⟨settings, rule, isTable, isRule, kept⟩ := rules id
    · simp [noTable, noRule]
    · rw [isTable, isRule, Option.bind_some, getD_true_iff kept.active]
      simp
  case severity =>
    intro id severity
    obtain ⟨noTable, noRule⟩ | ⟨settings, rule, isTable, isRule, kept⟩ := rules id
    · simp [severity?, noTable, noRule]
    · rw [severity?, isTable, isRule, Option.bind_some, kept.severity_iff]
      simp
  case options =>
    intro id settings rule isTable isRule
    exact (kept id settings rule isTable isRule).options
  case unchanged =>
    intro id settings rule isTable isRule
    exact (kept id settings rule isTable isRule).options_eq

end Read

end Document

/-- A document with tables where settings stand is refused exactly when it is mistyped or misdated,
and otherwise its configuration keeps what it sets. -/
theorem settings_kept_or_refused (document : Table) (shaped : IsShaped document) :
    (∀ text, Toml.parse? text = some document →
      read text = (ofToml? document).elim (.error .malformed) .ok) ∧
    (ofToml? document = none ↔ IsMistyped document ∨ IsMisdated document) ∧
    ∀ config, ofToml? document = some config → config.Keeps document := by
  refine ⟨?_, shaped.ofToml?_eq_none_iff, fun config => shaped.keeps⟩
  intro text parsed
  rw [read, parsed, Option.bind_some]
  cases ofToml? document <;> rfl

/-- A document with settings of one rule. -/
def oneRule (id : String) (settings : Table) : Table :=
  [("rules", .table [(id, .table settings)])]

/-- A document with settings of one rule has tables where settings stand. -/
theorem isShaped_oneRule (id : String) {settings : Table}
    (noTable : ∀ entries, settings.lookup "severity" ≠ some (.table entries)) :
    IsShaped (oneRule id settings) where
  ruleSet := nofun
  rules := by
    rintro _ ⟨⟩
    exact ⟨_, rfl⟩
  settings := List.forall_mem_singleton.mpr ⟨settings, rfl, noTable⟩

/-- A document with a rule that is switched off and has an option. -/
def offDocument : Table := oneRule "R" [("active", .boolean false), ("x", .string "y")]

/-- The rule that is switched off does not run, and its option is kept. -/
theorem offDocument_kept : IsShaped offDocument ∧
    ∃ config, read "[rules.R]\nactive=false\nx=\"y\"\n" = .ok config ∧
      config.Keeps offDocument ∧ config.isRuleActive "R" = false := by
  have shaped : IsShaped offDocument := isShaped_oneRule "R" nofun
  have parsed : Toml.parse? "[rules.R]\nactive=false\nx=\"y\"\n" = some offDocument := by cbv
  obtain ⟨isRead, _, kept⟩ := settings_kept_or_refused offDocument shaped
  exact ⟨shaped, _, isRead _ parsed, kept _ rfl, rfl⟩

/-- A document with an option that begins with the key of date-times and has a text under it. -/
def markedOption (text : String) : Table :=
  oneRule "R" [("x", .table [(dateTimeKey, .string text)])]

/-- The switches and severities of a document with such an option are as they should be. -/
theorem not_isMistyped_markedOption (text : String) : ¬ IsMistyped (markedOption text) := by
  rintro (⟨_, ⟨⟩, _⟩ | ⟨id, settings, listed, odd⟩)
  obtain ⟨_, rfl⟩ : id = "R" ∧ settings = [("x", .table [(dateTimeKey, .string text)])] := by
    simpa [ruleTables, markedOption, oneRule, Value.table?] using listed
  rcases odd with ⟨_, ⟨⟩, _⟩ | ⟨_, ⟨⟩, _⟩

/-- A table that begins with the key of date-times is not kept among options: it makes the document
malformed or becomes a date-time. -/
theorem markedOption_not_kept :
    (Toml.parse? "[rules.R.x]\n\"$__toml_private_datetime\" = \"soon\"\n" =
        some (markedOption "soon") ∧
      IsShaped (markedOption "soon") ∧ ¬ IsMistyped (markedOption "soon") ∧
      read "[rules.R.x]\n\"$__toml_private_datetime\" = \"soon\"\n" = .error .malformed) ∧
    (Toml.parse? "[rules.R.x]\n\"$__toml_private_datetime\" = \"1979-05-27\"\n" =
        some (markedOption "1979-05-27") ∧
      IsShaped (markedOption "1979-05-27") ∧ ¬ IsMistyped (markedOption "1979-05-27") ∧
      (read "[rules.R.x]\n\"$__toml_private_datetime\" = \"1979-05-27\"\n").toOption.bind
        (·.rule? "R") = some ⟨none, none, [("x", .datetime "1979-05-27")]⟩) := by
  have shaped : ∀ text, IsShaped (markedOption text) := fun _ => isShaped_oneRule "R" nofun
  have refused : Toml.parse? "[rules.R.x]\n\"$__toml_private_datetime\" = \"soon\"\n" =
      some (markedOption "soon") := by cbv
  have changed : Toml.parse? "[rules.R.x]\n\"$__toml_private_datetime\" = \"1979-05-27\"\n" =
      some (markedOption "1979-05-27") := by cbv
  refine ⟨⟨refused, shaped _, not_isMistyped_markedOption _, ?_⟩,
    ⟨changed, shaped _, not_isMistyped_markedOption _, ?_⟩⟩
  · rw [read, refused]
    rfl
  · rw [read, changed]
    rfl

end Config

end KotlinLint
