import KotlinLint.Proofs.ContextLeak.Agreement
import KotlinLint.Proofs.DiscriminatorClash
import KotlinLint.Proofs.DiscriminatorClash.Agreement
import Mathlib.Data.List.Flatten

/-!
# Declarations at the end of a file

Declarations that are added at the end of a file may have the names of classes that are there
already, may be subtypes of them or their supertypes, and may close a circle of inheritance. The
first class of a name still stands for it, so the file knows every supertype that it knew before,
and no finding is lost or changes its place among the others
(`Decompose.findings_sublist_append`).
-/

namespace KotlinLint

/-- The file with more declarations at its end. -/
def File.append (file : File) (added : List Declaration) : File :=
  file.withDeclarations (file.declarations ++ added)

section Append

variable (file : File) (added : List Declaration)

/-- The first class of a name comes before all that are added. -/
theorem Hierarchy.ofFile_append_extends :
    (Hierarchy.ofFile (file.append added)).Extends (Hierarchy.ofFile file) := by
  intro name parent found
  refine ⟨parent, ?_, rfl⟩
  rw [get?, ofFile, File.classes, Declaration.classesIn_eq_flatMap, File.append,
    File.withDeclarations, List.flatMap_append, ← Declaration.classesIn_eq_flatMap,
    List.find?_append]
  exact Option.or_eq_some_iff.mpr (.inl found)

/-- The visits of a file are still made when declarations are added, with others behind them. -/
theorem Rule.visitAll_findings_append (rule : Rule) :
    (rule.visitAll (file.append added)).findings =
      ((Declaration.visitsIn none file.declarations).flatMap fun visit =>
        (rule.visit (file.append added) visit).findings) ++
      (((Declaration.visitsIn none added).flatMap fun visit =>
        (rule.visit (file.append added) visit).findings) ++
      (rule.visitFile (file.append added)).findings) := by
  have visits : Declaration.visitsIn none (file.append added).declarations =
      Declaration.visitsIn none file.declarations ++ Declaration.visitsIn none added := by
    simp only [Declaration.visitsIn_eq_flatMap]
    exact List.flatMap_append
  rw [visitAll_findings, visits, List.flatMap_append, List.append_assoc]

/-- A rule loses no finding by what is added when it loses none at the visits that were made
without it. -/
theorem Rule.visitAll_findings_sublist_append {rule : Rule}
    (visits : ∀ visit, (rule.visit file visit).findings.Sublist
      (rule.visit (file.append added) visit).findings) :
    (rule.visitAll file).findings.Sublist (rule.visitAll (file.append added)).findings := by
  have kept := List.Sublist.flatMap_right (Declaration.visitsIn none file.declarations)
    fun visit _ => visits visit
  rw [visitAll_findings_append, visitAll_findings]
  exact kept.append ((visits .ofFile).trans (List.sublist_append_right _ _))

end Append

namespace ContextLeak

variable (file : File) (added : List Declaration)

/-- A leak is found whatever is added to the file. -/
theorem visit_findings_sublist_append (visit : Visit) :
    (rule.visit file visit).findings.Sublist (rule.visit (file.append added) visit).findings := by
  refine compare_visit_findings .sublist (fun declaration function => ?_) visit
  cases host : isHost file declaration with
  | false =>
    rw [answer?, host]
    exact List.nil_sublist _
  | true =>
    have stays := isHost_of_extends (Hierarchy.ofFile_append_extends file added) rfl host
    have same : answer? file (.ofFunction (some declaration) function) =
        answer? (file.append added) (.ofFunction (some declaration) function) :=
      answer?_congr rfl rfl (host.trans stays.symm) rfl rfl
    rw [same]

end ContextLeak

namespace DiscriminatorClash

variable (file : File) (discriminator : String) (added : List Declaration)

/-- The top-level classes are those of the file and then those that are added. -/
theorem topClasses_append : (file.append added).topClasses =
    file.topClasses ++ added.filterMap Declaration.class? := List.filterMap_append

/-- Subtypes of classes at top level are found whatever is added to the file. -/
theorem subtypeFindings_sublist_append :
    (subtypeFindings file discriminator).Sublist
      (subtypeFindings (file.append added) discriminator) := by
  have numbered : file.topClasses.zipIdx.Sublist (file.append added).topClasses.zipIdx := by
    rw [topClasses_append, List.zipIdx_append]
    exact List.sublist_append_left _ _
  have roots := numbered.filter fun candidate => isPolymorphicRoot candidate.1
  refine (roots.flatMap _).trans (List.Sublist.flatMap_right _ fun root _ => ?_)
  exact (numbered.filter _).filterMap _

/-- A clash is found whatever is added to the file. -/
theorem visit_findings_sublist_append (visit : Visit) :
    ((rule discriminator).visit file visit).findings.Sublist
      ((rule discriminator).visit (file.append added) visit).findings := by
  have imports : file.hasImport serializableImport =
      (file.append added).hasImport serializableImport := rfl
  cases visit with
  | ofClass declaration => exact .refl _
  | ofFunction enclosing function => exact .slnil
  | ofFile =>
    exact whenImported_compare .sublist imports
      (subtypeFindings_sublist_append file discriminator added)

end DiscriminatorClash

/-- Whatever is added at the end of a file, what the provided rules found in it they find in the
longer file, in the same order. -/
theorem Decompose.findings_sublist_append {config : Config} {set : RuleSet}
    (accepted : Decompose.ruleSet config = .ok set) (file : File) (added : List Declaration) :
    (set.check file).findings.Sublist (set.check (file.append added)).findings := by
  refine Decompose.compare_findings .sublist accepted ?_ fun discriminator => ?_
  · exact Rule.visitAll_findings_sublist_append file added
      (ContextLeak.visit_findings_sublist_append file added)
  · exact Rule.visitAll_findings_sublist_append file added
      (DiscriminatorClash.visit_findings_sublist_append file discriminator added)

namespace Decompose

/-- A file with one root and a subtype of it that names a supertype declared nowhere. -/
def openFile : File :=
  DiscriminatorClash.eventsFile.withDeclarations
    [DiscriminatorClash.emptyRoot "Event" ⟨73, 78, 2, 32⟩,
      .ofClass DiscriminatorClash.details.toClassHead []]

/-- The missing supertype as a second root, which inherits from its own subtype. -/
def circularRoot : Declaration :=
  .ofClass
    { name := "Message"
      nameSpan := ⟨190, 197, 5, 18⟩
      span := {}
      kind := .plain
      modifiers := ["sealed"]
      annotations := [{ value := .marker "Serializable" }]
      supertypes := [{ value := ⟨["Details"]⟩ }]
      parameters := [] } []

/-- The finding for the subtype is kept when the second root closes a circle. -/
theorem openFile_findings_sublist :
    ruleSet {} = .ok defaultSet ∧ (defaultSet.check openFile).findings ≠ [] ∧
      (defaultSet.check openFile).findings.Sublist
        (defaultSet.check (openFile.append [circularRoot])).findings :=
  ⟨ruleSet_default, by decide, findings_sublist_append ruleSet_default openFile [circularRoot]⟩

end Decompose

end KotlinLint
