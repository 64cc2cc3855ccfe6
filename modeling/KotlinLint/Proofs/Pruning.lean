import KotlinLint.Proofs.Decompose
import KotlinLint.Proofs.Inheritance

/-!
# Pruned files

A file is pruned when all is left out of it that no rule asks for: annotations that apply to
something other than what they stand at, imports that rename or import everything, and
constructor parameters that are no properties. A pruned file is visited as the whole one is, each
visit with what is left of its class or function (`Declaration.visitsIn_prunedAll`), and it has
the same plain imports, supertypes and properties.
-/

namespace KotlinLint

/-- Whether a directive makes one name known as it is. -/
def Import.isPlain (directive : Import) : Bool :=
  directive.rename.isNone && !directive.wildcard

/-- The annotations that apply to what they stand at. -/
def AnnotationEntry.untargeted (annotations : List (Placed AnnotationEntry)) :
    List (Placed AnnotationEntry) :=
  annotations.filter (·.value.useSite.isNone)

/-- The parameter without annotations that apply to something else. -/
def Parameter.pruned (parameter : Parameter) : Parameter :=
  { parameter with annotations := AnnotationEntry.untargeted parameter.annotations }

/-- The property without annotations that apply to something else. -/
def PropertyDeclaration.pruned (property : PropertyDeclaration) : PropertyDeclaration :=
  { property with annotations := AnnotationEntry.untargeted property.annotations }

/-- The function without annotations that apply to something else. -/
def FunctionDeclaration.pruned (function : FunctionDeclaration) : FunctionDeclaration :=
  { function with annotations := AnnotationEntry.untargeted function.annotations }

/-- The object without annotations that apply to something else. -/
def ObjectHead.pruned (head : ObjectHead) : ObjectHead :=
  { head with annotations := AnnotationEntry.untargeted head.annotations }

/-- The class without annotations that apply to something else, and without parameters that are no
properties. -/
def ClassHead.pruned (head : ClassHead) : ClassHead :=
  { head with
    annotations := AnnotationEntry.untargeted head.annotations
    parameters := (head.parameters.filter (·.binding.isSome)).map Parameter.pruned }

mutual

/-- The declaration pruned at every depth. -/
def Declaration.pruned : Declaration → Declaration
  | .ofClass head members => .ofClass head.pruned (Declaration.prunedAll members)
  | .ofObject head members => .ofObject head.pruned (Declaration.prunedAll members)
  | .ofFunction function => .ofFunction function.pruned
  | .ofProperty property => .ofProperty property.pruned

/-- The declarations of a list pruned at every depth. -/
def Declaration.prunedAll : List Declaration → List Declaration
  | [] => []
  | declaration :: rest => declaration.pruned :: Declaration.prunedAll rest

end

/-- The class pruned at every depth. -/
def ClassDeclaration.pruned (declaration : ClassDeclaration) : ClassDeclaration :=
  ⟨declaration.toClassHead.pruned, Declaration.prunedAll declaration.members⟩

/-- The property pruned. -/
def PropertyOrigin.pruned : PropertyOrigin → PropertyOrigin
  | member declared => member declared.pruned
  | parameter declared => parameter declared.pruned

/-- The visit of what is left of a class or a function. -/
def Visit.pruned : Visit → Visit
  | ofClass declaration => ofClass declaration.pruned
  | ofFunction enclosing function =>
    ofFunction (enclosing.map ClassDeclaration.pruned) function.pruned
  | ofFile => ofFile

/-- The file without renaming and wildcard imports, with its declarations pruned. -/
def File.pruned (file : File) : File :=
  { file with
    imports := file.imports.filter (·.value.isPlain)
    declarations := Declaration.prunedAll file.declarations }

namespace AnnotationEntry

/-- An annotation that applies to what it stands at is among those that do so. -/
theorem isAmong_untargeted {entry : AnnotationEntry} (own : entry.useSite = none)
    (annotations : List (Placed AnnotationEntry)) :
    entry.isAmong (untargeted annotations) = entry.isAmong annotations := by
  rw [isAmong, isAmong, untargeted, List.any_filter]
  congr 1
  funext found
  cases same : decide (found.value = entry) with
  | false => exact Bool.and_false _
  | true =>
    rw [of_decide_eq_true same, own]
    rfl

/-- The search for an annotation by name passes over those that apply to something else. -/
theorem findNamed?_untargeted (annotations : List (Placed AnnotationEntry)) (name : String) :
    findNamed? (untargeted annotations) name = findNamed? annotations name := by
  rw [findNamed?, findNamed?, untargeted, List.find?_filter]
  congr 1
  funext found
  cases found.value.useSite.isNone <;> simp

end AnnotationEntry

/-- A file has the same plain imports when others are left out. -/
theorem File.hasImport_pruned (file : File) (path : List String) :
    file.pruned.hasImport (.plain path) = file.hasImport (.plain path) := by
  rw [hasImport, hasImport, pruned, List.any_filter]
  congr 1
  funext found
  cases same : decide (found.value = .plain path) with
  | false => exact Bool.and_false _
  | true =>
    rw [of_decide_eq_true same]
    rfl

namespace Declaration

/-- A list of declarations is pruned by pruning each of them. -/
theorem prunedAll_eq_map (declarations : List Declaration) :
    prunedAll declarations = declarations.map pruned := by
  induction declarations with
  | nil => rfl
  | cons declaration rest ih => rw [prunedAll, ih, List.map_cons]

/-- The classes among pruned declarations are those among the whole ones, pruned. -/
theorem filterMap_class?_prunedAll (declarations : List Declaration) :
    (prunedAll declarations).filterMap class? =
      (declarations.filterMap class?).map ClassDeclaration.pruned := by
  have each : class? ∘ pruned = fun declaration =>
      declaration.class?.map ClassDeclaration.pruned := by
    funext declaration
    cases declaration <;> rfl
  rw [prunedAll_eq_map, List.filterMap_map, each, List.map_filterMap]

/-- The properties among pruned declarations are those among the whole ones, pruned. -/
theorem filterMap_property?_prunedAll (declarations : List Declaration) :
    (prunedAll declarations).filterMap property? =
      (declarations.filterMap property?).map PropertyDeclaration.pruned := by
  have each : property? ∘ pruned = fun declaration =>
      declaration.property?.map PropertyDeclaration.pruned := by
    funext declaration
    cases declaration <;> rfl
  rw [prunedAll_eq_map, List.filterMap_map, each, List.map_filterMap]

mutual

/-- The classes of a pruned declaration are those of the whole one, pruned. -/
theorem classes_pruned : ∀ declaration : Declaration,
    declaration.pruned.classes = declaration.classes.map ClassDeclaration.pruned
  | .ofClass head members => by
    rw [pruned, classes, classes, classesIn_prunedAll members, List.map_cons]
    rfl
  | .ofObject head members => classesIn_prunedAll members
  | .ofFunction function => rfl
  | .ofProperty property => rfl

/-- The classes of pruned declarations are those of the whole ones, pruned. -/
theorem classesIn_prunedAll : ∀ declarations : List Declaration,
    classesIn (prunedAll declarations) = (classesIn declarations).map ClassDeclaration.pruned
  | [] => rfl
  | declaration :: rest => by
    rw [prunedAll, classesIn, classesIn, classes_pruned declaration, classesIn_prunedAll rest,
      List.map_append]

end

mutual

/-- The visits of a pruned declaration are those of the whole one, pruned. -/
theorem visits_pruned (enclosing : Option ClassDeclaration) : ∀ declaration : Declaration,
    declaration.pruned.visits (enclosing.map ClassDeclaration.pruned) =
      (declaration.visits enclosing).map Visit.pruned
  | .ofClass head members => by
    have inside := visitsIn_prunedAll (some ⟨head, members⟩) members
    rw [visits, List.map_append, ← inside]
    rfl
  | .ofObject head members => visitsIn_prunedAll enclosing members
  | .ofFunction function => rfl
  | .ofProperty property => rfl

/-- The visits of pruned declarations are those of the whole ones, pruned. -/
theorem visitsIn_prunedAll (enclosing : Option ClassDeclaration) :
    ∀ declarations : List Declaration,
      visitsIn (enclosing.map ClassDeclaration.pruned) (prunedAll declarations) =
        (visitsIn enclosing declarations).map Visit.pruned
  | [] => rfl
  | declaration :: rest => by
    rw [prunedAll, visitsIn, visitsIn, visits_pruned enclosing declaration,
      visitsIn_prunedAll enclosing rest, List.map_append]

end

end Declaration

/-- A rule finds the same in a pruned file when it answers alike to pruned visits. -/
theorem Rule.visitAll_findings_pruned {rule : Rule} {file : File}
    (visits : ∀ visit : Visit,
      (rule.visit file.pruned visit.pruned).findings = (rule.visit file visit).findings) :
    (rule.visitAll file.pruned).findings = (rule.visitAll file).findings := by
  have whole : (rule.visitFile file.pruned).findings = (rule.visitFile file).findings :=
    visits .ofFile
  have made : Declaration.visitsIn none file.pruned.declarations =
      (Declaration.visitsIn none file.declarations).map Visit.pruned :=
    Declaration.visitsIn_prunedAll none file.declarations
  rw [visitAll_findings, visitAll_findings, made, List.flatMap_map, funext visits, whole]

namespace ClassDeclaration

variable (declaration : ClassDeclaration)

/-- The properties of the constructor stay, pruned. -/
theorem propertyParameters_pruned :
    declaration.pruned.propertyParameters =
      declaration.propertyParameters.map Parameter.pruned := by
  have properties : (fun parameter : Parameter => parameter.binding.isSome) ∘ Parameter.pruned =
      fun parameter => parameter.binding.isSome := rfl
  rw [propertyParameters, pruned, ClassHead.pruned, List.filter_map, properties, List.filter_filter]
  simp only [Bool.and_self]
  rfl

/-- A search for a property finds the same one, pruned. -/
theorem findProperty?_pruned (name : String) :
    declaration.pruned.findProperty? name =
      (declaration.findProperty? name).map PropertyOrigin.pruned := by
  have members : declaration.pruned.memberProperties =
      declaration.memberProperties.map PropertyDeclaration.pruned :=
    Declaration.filterMap_property?_prunedAll declaration.members
  have properties : declaration.pruned.properties =
      declaration.properties.map PropertyOrigin.pruned := by
    rw [ClassDeclaration.properties, ClassDeclaration.properties, members,
      propertyParameters_pruned, List.map_append, List.map_map, List.map_map, List.map_map,
      List.map_map]
    rfl
  have names : (fun property : PropertyOrigin => decide (property.name = name)) ∘
      PropertyOrigin.pruned = fun property => decide (property.name = name) := by
    funext property
    cases property <;> rfl
  rw [findProperty?, findProperty?, properties, List.find?_map, names]

end ClassDeclaration

namespace Hierarchy

variable (file : File)

/-- A name stands for what is left of the class for which it stood. -/
theorem get?_ofFile_pruned (name : String) :
    (ofFile file.pruned).get? name = ((ofFile file).get? name).map ClassDeclaration.pruned := by
  have classes : file.pruned.classes = file.classes.map ClassDeclaration.pruned :=
    Declaration.classesIn_prunedAll file.declarations
  rw [get?, ofFile, classes, List.find?_map]
  rfl

/-- A pruned file knows all supertypes. -/
theorem ofFile_pruned_extends : (ofFile file.pruned).Extends (ofFile file) := by
  intro name parent found
  refine ⟨parent.pruned, ?_, rfl⟩
  rw [get?_ofFile_pruned, found, Option.map_some]

/-- A pruned file knows no other supertypes. -/
theorem ofFile_extends_pruned : (ofFile file).Extends (ofFile file.pruned) := by
  intro name parent found
  rw [get?_ofFile_pruned] at found
  obtain ⟨whole, known, rfl⟩ := Option.map_eq_some_iff.mp found
  exact ⟨whole, known, rfl⟩

end Hierarchy

end KotlinLint
