import KotlinLint.Proofs.RuleSet
import KotlinLint.Rules.Decompose

/-!
# Checks of two files

What the provided rule set finds in a file is made of what its rules answer to the visits of the
file. So a comparison of the findings in two files that can be made piece by piece
(`Piecewise`) holds of the whole set when it holds of each of the two rules
(`Decompose.compare_findings`), whichever of them run and whatever severities they are given.
-/

namespace KotlinLint

/-- Whether a comparison of findings can be made piece by piece, whatever severity is given to
them. -/
structure Piecewise (Compares : List Finding → List Finding → Prop) : Prop where
  /-- Nothing found compares with nothing found. -/
  nil : Compares [] []
  /-- Findings that compare piece by piece compare as a whole. -/
  append {first second third fourth : List Finding} :
    Compares first second → Compares third fourth → Compares (first ++ third) (second ++ fourth)
  /-- Findings compare after a change that is made to all of them. -/
  map {first second : List Finding} (change : Finding → Finding) :
    Compares first second → Compares (first.map change) (second.map change)

namespace Piecewise

/-- Equal findings are equal piece by piece. -/
theorem eq : Piecewise (· = ·) where
  nil := rfl
  append left right := by rw [left, right]
  map change same := by rw [same]

/-- Findings that are contained in others in order are so piece by piece. -/
theorem sublist : Piecewise List.Sublist where
  nil := .slnil
  append left right := left.append right
  map change included := included.map change

/-- Findings that agree up to order do so piece by piece. -/
theorem perm : Piecewise List.Perm where
  nil := .nil
  append left right := left.append right
  map change same := same.map change

variable {Compares : List Finding → List Finding → Prop}

/-- Answers to the members of a list compare as a whole when they do for each member. -/
theorem flatMap {α : Type} (piecewise : Piecewise Compares) {list : List α}
    {first second : α → List Finding}
    (each : ∀ member ∈ list, Compares (first member) (second member)) :
    Compares (list.flatMap first) (list.flatMap second) := by
  induction list with
  | nil => exact piecewise.nil
  | cons member rest ih =>
    rw [List.flatMap_cons, List.flatMap_cons]
    obtain ⟨here, later⟩ := List.forall_mem_cons.mp each
    exact piecewise.append here (ih later)

end Piecewise

namespace Declaration

/-- The classes of a list of declarations are those of its members, in order. -/
theorem classesIn_eq_flatMap (declarations : List Declaration) :
    classesIn declarations = declarations.flatMap classes := by
  induction declarations with
  | nil => rfl
  | cons declaration rest ih => rw [classesIn, ih, List.flatMap_cons]

/-- The visits of a list of declarations are those of its members, in order. -/
theorem visitsIn_eq_flatMap (enclosing : Option ClassDeclaration)
    (declarations : List Declaration) :
    visitsIn enclosing declarations = declarations.flatMap (visits enclosing) := by
  induction declarations with
  | nil => rfl
  | cons declaration rest ih => rw [visitsIn, ih, List.flatMap_cons]

end Declaration

/-- What a rule finds is what it answers to the visits of the declarations and then to that of the
file. -/
theorem Rule.visitAll_findings (rule : Rule) (file : File) :
    (rule.visitAll file).findings =
      ((Declaration.visitsIn none file.declarations).flatMap fun visit =>
        (rule.visit file visit).findings) ++ (rule.visitFile file).findings := by
  rw [visitAll, Report.concat, List.flatMap_map, File.visits, List.flatMap_append,
    List.flatMap_singleton]
  rfl

/-- The file with other declarations. -/
def File.withDeclarations (file : File) (declarations : List Declaration) : File :=
  { file with declarations := declarations }

namespace Decompose

/-- The rule set of a configuration that sets nothing. -/
def defaultSet : RuleSet :=
  RuleSet.ofConfig ruleSetId {}
    [ContextLeak.rule, DiscriminatorClash.rule DiscriminatorClash.defaultDiscriminator]

/-- A configuration that sets nothing is accepted. -/
theorem ruleSet_default : ruleSet {} = .ok defaultSet := rfl

variable {config : Config} {set : RuleSet}

/-- An accepted configuration sets a discriminator, and the rules of the set are among the two
rules for it. -/
theorem exists_rules_subset (accepted : ruleSet config = .ok set) :
    ∃ discriminator, DiscriminatorClash.discriminator? config = .ok discriminator ∧
      set.rules ⊆ [ContextLeak.rule, DiscriminatorClash.rule discriminator] := by
  rw [ruleSet, rules] at accepted
  cases option : DiscriminatorClash.discriminator? config with
  | error fault =>
    rw [option] at accepted
    cases accepted
  | ok discriminator =>
    rw [option] at accepted
    cases accepted
    exact ⟨discriminator, rfl, fun _ => List.mem_of_mem_filter⟩

/-- A finding of the set is one of either rule, apart from its severity. -/
theorem exists_finding_of_rule (accepted : ruleSet config = .ok set) {file : File}
    {finding : Finding} (found : finding ∈ (set.check file).findings) :
    ∃ own severity, finding = own.withSeverity severity ∧
      (own ∈ (ContextLeak.rule.visitAll file).findings ∨
        ∃ discriminator, DiscriminatorClash.discriminator? config = .ok discriminator ∧
          own ∈ ((DiscriminatorClash.rule discriminator).visitAll file).findings) := by
  obtain ⟨discriminator, isSet, provided⟩ := exists_rules_subset accepted
  rw [RuleSet.check_findings, List.mem_flatMap] at found
  obtain ⟨rule, runs, found⟩ := found
  rw [RuleSet.checkRule_findings] at found
  obtain ⟨own, isOwn, rfl⟩ := List.mem_map.mp found
  refine ⟨own, _, rfl, ?_⟩
  rcases List.mem_cons.mp (provided runs) with rfl | other
  · exact .inl isOwn
  · rw [List.mem_singleton.mp other] at isOwn
    exact .inr ⟨discriminator, isSet, isOwn⟩

/-- The findings in two files compare when those of each rule do. -/
theorem compare_findings {Compares : List Finding → List Finding → Prop}
    (piecewise : Piecewise Compares) (accepted : ruleSet config = .ok set) {first second : File}
    (leaks : Compares (ContextLeak.rule.visitAll first).findings
      (ContextLeak.rule.visitAll second).findings)
    (clashes : ∀ discriminator,
      Compares ((DiscriminatorClash.rule discriminator).visitAll first).findings
        ((DiscriminatorClash.rule discriminator).visitAll second).findings) :
    Compares (set.check first).findings (set.check second).findings := by
  obtain ⟨discriminator, _, provided⟩ := exists_rules_subset accepted
  rw [RuleSet.check_findings, RuleSet.check_findings]
  apply piecewise.flatMap
  intro rule runs
  rw [RuleSet.checkRule_findings, RuleSet.checkRule_findings]
  apply piecewise.map
  rcases List.mem_cons.mp (provided runs) with rfl | other
  · exact leaks
  · rw [List.mem_singleton.mp other]
    exact clashes discriminator

end Decompose

end KotlinLint
