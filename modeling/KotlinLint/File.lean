import KotlinLint.Declaration
import KotlinLint.Import

/-!
# Files

A file is what rules look at: its imports and its tree of declarations. All its classes, those
in classes and in objects included, have one order, each class before its members.
-/

namespace KotlinLint

/-- One source file. -/
structure File where
  /-- The path by which findings name the file. -/
  path : String := ""
  /-- The declared package. -/
  package : Option String := none
  imports : List (Placed Import) := []
  /-- The top-level declarations. -/
  declarations : List Declaration := []
  span : Span := {}

mutual

/-- The classes of a declaration at any depth, each before its members. -/
def Declaration.classes : Declaration → List ClassDeclaration
  | .ofClass head members => ⟨head, members⟩ :: Declaration.classesIn members
  | .ofObject _ members => Declaration.classesIn members
  | .ofFunction _ => []
  | .ofProperty _ => []

/-- The classes of a list of declarations at any depth, each before its members. -/
def Declaration.classesIn : List Declaration → List ClassDeclaration
  | [] => []
  | declaration :: rest => declaration.classes ++ Declaration.classesIn rest

end

namespace File

/-- The classes declared at top level. -/
def topClasses (file : File) : List ClassDeclaration :=
  file.declarations.filterMap Declaration.class?

/-- The classes declared at any depth, each before its members. -/
def classes (file : File) : List ClassDeclaration := Declaration.classesIn file.declarations

/-- Whether a directive equal to this one is among the imports. -/
def hasImport (file : File) (directive : Import) : Bool :=
  file.imports.any (·.value = directive)

/-- Whether the directive that a text writes is among the imports. -/
def hasWrittenImport (file : File) (text : String) : Bool :=
  (Import.read text).any file.hasImport

end File

end KotlinLint
