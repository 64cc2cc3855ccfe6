import KotlinLint.Hierarchy
import KotlinLint.Rule

/-!
# Component contexts created in composition

A component context is tied to the activity or fragment that creates it. Created from composable
code it would be created again with every recomposition and the previous one would leak. The
rule looks at the functions of activities and fragments in files that import the factory: a
composable function may not call the factory at all, another function not in the first lambda of
its first `setContent` call. There is at most one finding for a function.
-/

namespace KotlinLint.ContextLeak

/-- The rule's identifier. -/
def ruleId : String := "DecomposeComponentContextRule"

/-- The message of every finding. -/
def message : String := "Avoid using defaultComponentContext inside Composable functions."

/-- The function that creates a component context. -/
def factory : String := "defaultComponentContext"

/-- The import that makes the factory known under its own name. -/
def factoryImport : Import := .plain ["com", "arkivanov", "decompose", "defaultComponentContext"]

/-- The annotation of composable functions. -/
def composable : AnnotationEntry := .marker "Composable"

/-- The function that starts composition. -/
def setContent : String := "setContent"

/-- How the names of activities and fragments end. -/
def hostEndings : List String := ["Activity", "Fragment"]

/-- The rule's issue. -/
def issue : Issue := ⟨ruleId, .codeSmell, message, ⟨1⟩⟩

/-- Whether a class is an activity or a fragment, as far as its file tells. -/
def isHost (file : File) (declaration : ClassDeclaration) : Bool :=
  hostEndings.any ((Hierarchy.ofFile file).inheritsEnding declaration)

/-- The first call of the factory from composition in the body of a function. -/
def leakedCall? (body : Block) (isComposable : Bool) : Option Call :=
  if isComposable then body.find? factory
  else ((body.find? setContent).bind Call.firstLambda).bind (·.find? factory)

/-- The finding for a function with a body. -/
def finding? (file : File) (function : FunctionDeclaration) (body : Block) : Option Finding :=
  (leakedCall? body (composable.isAmong function.annotations)).map fun call =>
    .ofIssue issue (.ofSpan file.path call.span) message

/-- The report on a function. -/
def visitFunction (file : File) (enclosing : Option ClassDeclaration)
    (function : FunctionDeclaration) : Report :=
  match enclosing with
  | none => {}
  | some declaration =>
    if !isHost file declaration then {}
    else if !file.hasImport factoryImport then .missingImport file factory
    else .ofFindings (function.body.bind (finding? file function)).toList

/-- The rule against component contexts created in composition. -/
def rule : Rule := { issue := issue, visitFunction := visitFunction }

end KotlinLint.ContextLeak
