import KotlinLint.Proofs.ContextLeak
import KotlinLint.Proofs.Decompose

/-!
# Answers about functions of two files

The rule answers alike about two functions with the same body, in two files of one path, when it
takes both for composable or neither, and when both are inside activities or fragments or neither
is (`ContextLeak.answer?_congr`). Whether a class is one depends on what the classes of its file
inherit: a file that knows more supertypes has no fewer activities and fragments
(`ContextLeak.isHost_of_extends`).
-/

namespace KotlinLint.ContextLeak

variable {first second : File} {declaration other : ClassDeclaration}

/-- A class stays an activity or a fragment in a file that knows more supertypes. -/
theorem isHost_of_extends
    (more : (Hierarchy.ofFile second).Extends (Hierarchy.ofFile first))
    (same : other.supertypeNames = declaration.supertypeNames)
    (host : isHost first declaration = true) : isHost second other = true := by
  obtain ⟨ending, listed, inherits⟩ := List.any_eq_true.mp host
  exact List.any_eq_true.mpr
    ⟨ending, listed, Hierarchy.inheritsEnding_of_extends more same inherits⟩

/-- Files that know the same supertypes have the same activities and fragments. -/
theorem isHost_congr
    (forth : (Hierarchy.ofFile second).Extends (Hierarchy.ofFile first))
    (back : (Hierarchy.ofFile first).Extends (Hierarchy.ofFile second))
    (same : other.supertypeNames = declaration.supertypeNames) :
    isHost first declaration = isHost second other := by
  rw [Bool.eq_iff_iff]
  exact ⟨isHost_of_extends forth same, isHost_of_extends back same.symm⟩

/-- The rule answers alike about functions that agree in what it looks at. -/
theorem answer?_congr {function counterpart : FunctionDeclaration}
    (paths : first.path = second.path)
    (imports : first.hasImport factoryImport = second.hasImport factoryImport)
    (hosts : isHost first declaration = isHost second other)
    (marked : composable.isAmong function.annotations =
      composable.isAmong counterpart.annotations)
    (bodies : function.body = counterpart.body) :
    answer? first (.ofFunction (some declaration) function) =
      answer? second (.ofFunction (some other) counterpart) := by
  have search : finding? first function = finding? second counterpart := by
    funext body
    rw [finding?, finding?, marked, paths]
  rw [answer?, answer?, hosts, imports, bodies, search]

/-- Findings of two files compare at a visit when they do at those of functions inside classes. -/
theorem compare_visit_findings {Compares : List Finding → List Finding → Prop}
    (piecewise : Piecewise Compares)
    (functions : ∀ declaration function,
      Compares (answer? first (.ofFunction (some declaration) function)).toList
        (answer? second (.ofFunction (some declaration) function)).toList) (visit : Visit) :
    Compares (rule.visit first visit).findings (rule.visit second visit).findings := by
  rw [visit_findings, visit_findings]
  cases visit with
  | ofClass declaration => exact piecewise.nil
  | ofFile => exact piecewise.nil
  | ofFunction enclosing function =>
    cases enclosing with
    | none => exact piecewise.nil
    | some declaration => exact functions declaration function

end KotlinLint.ContextLeak
