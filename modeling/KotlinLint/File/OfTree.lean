import KotlinLint.Declaration.OfTree
import KotlinLint.Event
import KotlinLint.File

/-!
# Files from syntax trees

A file takes its package, imports and declarations from the tree of its source. A tree with
syntax errors makes a file as well, of what could be recognised.
-/

namespace KotlinLint

open Node

/-- The package that a package header names: its identifiers with dots between them. -/
def packageOf? (source : Source) (header : Node) : Option String :=
  (header.childOfKind? ["qualified_identifier"]).map fun name =>
    ".".intercalate ((name.children.filter fun child => nameKinds.contains child.kind).map
      fun child => source.text child.label)

/-- The nodes that write one import each, among the children of the root and in lists. -/
def importNodes (root : Node) : List Node :=
  let entries := root.children.filter fun child =>
    ["import", "import_header", "import_list"].contains child.kind
  outermostIn (fun label _ => label.kind ≠ "import_list") (fun _ _ => true) entries

namespace File

/-- The file with a path that has a source and its tree. The last package header that names a
package counts. -/
def ofTree (path : String) (source : Source) (root : Node) : File :=
  let headers := root.children.filter (·.kind = "package_header")
  { path := path
    package := (headers.filterMap (packageOf? source)).getLast?
    imports := (importNodes root).filterMap fun node =>
      (Import.read (source.text node.label)).map (⟨·, node.span⟩)
    declarations := Declaration.ofNodes source root.children
    span := root.span }

/-- The language of the files. -/
def language : String := "kotlin"

/-- The file name endings of the language. -/
def extensions : List String := [".kt", ".kts"]

/-- What there is to report about making a file from a tree. -/
def treeEvents (path : String) (tree : Tree) : List Event :=
  if tree.hasError then [.syntaxErrors path] else []

end File

end KotlinLint
