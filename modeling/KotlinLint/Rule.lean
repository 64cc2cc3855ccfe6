import KotlinLint.Event
import KotlinLint.File
import KotlinLint.Finding

/-!
# Rules

A rule has an issue and looks at a file in visits: one of each class, one of each function and
one of the file. The members of a class are visited before the class, the file comes last, and a
function is visited together with the innermost class around it. Each visit answers a report,
and the report of a rule on a file is made of those of its visits, in order.
-/

namespace KotlinLint

/-- Findings, and what there is to say about the search for them. -/
structure Report where
  findings : List Finding := []
  events : List Event := []

namespace Report

/-- A report of findings alone. -/
def ofFindings (findings : List Finding) : Report := ⟨findings, []⟩

/-- A report of a missing import. -/
def missingImport (file : File) (imported : String) : Report :=
  ⟨[], [.missingImport file.path imported]⟩

/-- Reports one after the other. -/
def concat (reports : List Report) : Report :=
  ⟨reports.flatMap (·.findings), reports.flatMap (·.events)⟩

end Report

/-- A rule, by its issue and by what it answers to each kind of visit. -/
structure Rule where
  issue : Issue
  visitFile : File → Report := fun _ => {}
  visitClass : File → ClassDeclaration → Report := fun _ _ => {}
  /-- The class is the innermost one around the function, if there is one. -/
  visitFunction : File → Option ClassDeclaration → FunctionDeclaration → Report :=
    fun _ _ _ => {}

/-- A visit. -/
inductive Visit where
  | ofClass (declaration : ClassDeclaration)
  | ofFunction (enclosing : Option ClassDeclaration) (function : FunctionDeclaration)
  | ofFile

mutual

/-- The visits of a declaration inside a class. A class is visited after its members, an object
is not visited itself. -/
def Declaration.visits (enclosing : Option ClassDeclaration) : Declaration → List Visit
  | .ofClass head members =>
    Declaration.visitsIn (some ⟨head, members⟩) members ++ [.ofClass ⟨head, members⟩]
  | .ofObject _ members => Declaration.visitsIn enclosing members
  | .ofFunction function => [.ofFunction enclosing function]
  | .ofProperty _ => []

/-- The visits of a list of declarations inside a class. -/
def Declaration.visitsIn (enclosing : Option ClassDeclaration) : List Declaration → List Visit
  | [] => []
  | declaration :: rest => declaration.visits enclosing ++ Declaration.visitsIn enclosing rest

end

/-- The visits of a file, the file itself last. -/
def File.visits (file : File) : List Visit :=
  Declaration.visitsIn none file.declarations ++ [.ofFile]

namespace Rule

/-- The identifier of a rule. -/
def id (rule : Rule) : String := rule.issue.id

/-- What a rule answers to a visit. -/
def visit (rule : Rule) (file : File) : Visit → Report
  | .ofClass declaration => rule.visitClass file declaration
  | .ofFunction enclosing function => rule.visitFunction file enclosing function
  | .ofFile => rule.visitFile file

/-- What a rule answers to all visits of a file. -/
def visitAll (rule : Rule) (file : File) : Report :=
  Report.concat (file.visits.map (rule.visit file))

end Rule

end KotlinLint
