import KotlinLint.Proofs.ContextLeak.Agreement
import KotlinLint.Proofs.DiscriminatorClash.Agreement
import KotlinLint.Proofs.Pruning

/-!
# What the provided rules do not ask for

The provided rules compare annotations with annotations that apply to what they stand at, imports
with plain imports, and look at parameters only as properties. So they find the same in a file
when all else of its annotations, imports and parameters is left out
(`Decompose.findings_pruned`).
-/

namespace KotlinLint

variable (file : File)

namespace ContextLeak

/-- The same classes are activities and fragments in a pruned file. -/
theorem isHost_pruned (declaration : ClassDeclaration) :
    isHost file.pruned declaration.pruned = isHost file declaration :=
  isHost_congr (Hierarchy.ofFile_extends_pruned file) (Hierarchy.ofFile_pruned_extends file) rfl

/-- The answers to pruned visits are those to the whole visits. -/
theorem visit_findings_pruned (visit : Visit) :
    (rule.visit file.pruned visit.pruned).findings = (rule.visit file visit).findings := by
  rw [visit_findings, visit_findings]
  cases visit with
  | ofClass declaration => rfl
  | ofFile => rfl
  | ofFunction enclosing function =>
    cases enclosing with
    | none => rfl
    | some declaration =>
      have marked : composable.isAmong function.pruned.annotations =
          composable.isAmong function.annotations :=
        AnnotationEntry.isAmong_untargeted rfl function.annotations
      have same : answer? file.pruned (.ofFunction (some declaration.pruned) function.pruned) =
          answer? file (.ofFunction (some declaration) function) :=
        answer?_congr rfl (file.hasImport_pruned _) (isHost_pruned file declaration) marked rfl
      exact congrArg Option.toList same

end ContextLeak

namespace DiscriminatorClash

variable (discriminator : String)

/-- A pruned class is serializable exactly when the whole one is. -/
theorem isAmong_serializable_pruned (declaration : ClassDeclaration) :
    serializable.isAmong declaration.pruned.annotations =
      serializable.isAmong declaration.annotations :=
  AnnotationEntry.isAmong_untargeted rfl declaration.annotations

/-- A pruned class is a root exactly when the whole one is. -/
theorem isPolymorphicRoot_pruned (declaration : ClassDeclaration) :
    isPolymorphicRoot declaration.pruned = isPolymorphicRoot declaration := by
  rw [isPolymorphicRoot, isAmong_serializable_pruned]
  rfl

/-- A pruned property is renamed exactly when the whole one is. -/
theorem isRenamed_pruned (property : PropertyOrigin) :
    isRenamed discriminator property.pruned = isRenamed discriminator property := by
  have annotations : property.pruned.annotations =
      AnnotationEntry.untargeted property.annotations := by
    cases property <;> rfl
  rw [isRenamed, annotations, AnnotationEntry.findNamed?_untargeted]
  rfl

/-- A pruned class collides exactly when the whole one does. -/
theorem hasCollision_pruned (candidate : ClassDeclaration) :
    hasCollision file.pruned discriminator candidate.pruned =
      hasCollision file discriminator candidate := by
  have aliases : (fun parameter : Parameter =>
      (serialNameOf discriminator).isAmong parameter.annotations) ∘ Parameter.pruned =
        fun parameter => (serialNameOf discriminator).isAmong parameter.annotations := by
    funext parameter
    exact AnnotationEntry.isAmong_untargeted rfl parameter.annotations
  have imports : file.pruned.hasImport serialNameImport = file.hasImport serialNameImport :=
    file.hasImport_pruned _
  rw [hasCollision, hasCollision, candidate.propertyParameters_pruned,
    candidate.findProperty?_pruned, imports, List.any_map, aliases, Option.any_map]
  simp only [isRenamed_pruned]

/-- A pruned class has the finding of the whole one. -/
theorem finding?_pruned (candidate : ClassDeclaration) :
    finding? file.pruned discriminator candidate.pruned = finding? file discriminator candidate :=
  finding?_congr rfl rfl (hasCollision_pruned file discriminator candidate)

/-- The members of a pruned class have the findings of those of the whole class. -/
theorem memberFindings_pruned (declaration : ClassDeclaration) :
    memberFindings file.pruned discriminator declaration.pruned =
      memberFindings file discriminator declaration := by
  have nested : declaration.pruned.nestedClasses =
      declaration.nestedClasses.map ClassDeclaration.pruned :=
    Declaration.filterMap_class?_prunedAll declaration.members
  have findings : finding? file.pruned discriminator ∘ ClassDeclaration.pruned =
      finding? file discriminator := funext (finding?_pruned file discriminator)
  have marked : (fun nested : ClassDeclaration => serializable.isAmong nested.annotations) ∘
      ClassDeclaration.pruned = fun nested => serializable.isAmong nested.annotations :=
    funext isAmong_serializable_pruned
  rw [memberFindings, memberFindings, nested, List.filter_map, List.filterMap_map, marked, findings]

/-- The subtypes of the roots of a pruned file have the findings of those of the whole file. -/
theorem subtypeFindings_pruned :
    subtypeFindings file.pruned discriminator = subtypeFindings file discriminator := by
  have classes : file.pruned.topClasses.zipIdx =
      file.topClasses.zipIdx.map (Prod.map ClassDeclaration.pruned id) := by
    have top : file.pruned.topClasses = file.topClasses.map ClassDeclaration.pruned :=
      Declaration.filterMap_class?_prunedAll file.declarations
    rw [top, List.zipIdx_map]
  rw [subtypeFindings, subtypeFindings, classes]
  simp only [List.filter_map, List.flatMap_map, List.filterMap_map, Function.comp_def, Prod.map_fst,
    isPolymorphicRoot_pruned, isAmong_serializable_pruned, finding?_pruned]
  rfl

/-- The answers to pruned visits are those to the whole visits. -/
theorem visit_findings_pruned (visit : Visit) :
    ((rule discriminator).visit file.pruned visit.pruned).findings =
      ((rule discriminator).visit file visit).findings := by
  have imports : file.pruned.hasImport serializableImport = file.hasImport serializableImport :=
    file.hasImport_pruned _
  cases visit with
  | ofFunction enclosing function => rfl
  | ofFile => exact whenImported_compare .eq imports (subtypeFindings_pruned file discriminator)
  | ofClass declaration =>
    show (visitClass discriminator file.pruned declaration.pruned).findings =
      (visitClass discriminator file declaration).findings
    rw [visitClass, visitClass, isPolymorphicRoot_pruned]
    split
    · exact whenImported_compare .eq imports (memberFindings_pruned file discriminator declaration)
    · rfl

end DiscriminatorClash

/-- The provided rules find the same, in the same order, in a file and in what is left of it
without annotations that apply to something else, renaming and wildcard imports, and parameters
that are no properties. -/
theorem Decompose.findings_pruned {config : Config} {set : RuleSet}
    (accepted : Decompose.ruleSet config = .ok set) :
    (set.check file.pruned).findings = (set.check file).findings :=
  Decompose.compare_findings .eq accepted
    (Rule.visitAll_findings_pruned (ContextLeak.visit_findings_pruned file))
    fun discriminator => Rule.visitAll_findings_pruned
      (DiscriminatorClash.visit_findings_pruned file discriminator)

namespace Decompose

/-- A class with a property whose accessor has another serial name, and with a parameter that is no
property. -/
def mixedClass : Declaration :=
  .ofClass
    { name := "Started"
      nameSpan := ⟨171, 178, 5, 18⟩
      span := {}
      kind := .plain
      modifiers := []
      annotations := [{ value := ⟨some "file", "Suppress", []⟩ },
        { value := .marker "Serializable" }]
      supertypes := []
      parameters :=
        [{ name := "type", span := {}, binding := none, annotations := [] },
          { name := "type", span := {}, binding := some .val,
            annotations := [{ value := ⟨some "get", "SerialName", [⟨none, .text "kind"⟩]⟩ }] }] } []

/-- A file in which a class clashes, with imports of every form. -/
def mixedFile : File where
  path := "Events.kt"
  imports := [{ value := ⟨["kotlinx", "serialization", "SerialName"], some "Key", false⟩ },
    { value := DiscriminatorClash.serializableImport },
    { value := ⟨["kotlinx", "serialization"], none, true⟩ },
    { value := DiscriminatorClash.serialNameImport }]
  declarations :=
    [.ofClass
      { name := "Event"
        nameSpan := ⟨130, 135, 4, 14⟩
        span := {}
        kind := .plain
        modifiers := ["sealed"]
        annotations := [{ value := .marker "Serializable" }]
        supertypes := []
        parameters := [] } [mixedClass]]

/-- The clash is found whether or not the rest of the file is left out. -/
theorem mixedFile_findings_pruned :
    ruleSet {} = .ok defaultSet ∧ mixedFile.pruned.imports.length = 2 ∧
      (defaultSet.check mixedFile).findings.length = 1 ∧
      (defaultSet.check mixedFile.pruned).findings = (defaultSet.check mixedFile).findings :=
  ⟨ruleSet_default, by decide, by decide, findings_pruned mixedFile ruleSet_default⟩

end Decompose

end KotlinLint
