import KotlinLint.Call.OfTree
import KotlinLint.Declaration

/-!
# Declarations of a syntax tree

Declarations are looked for among the children of a node and below nodes that only wrap them;
expressions, literals and bodies are opaque. An annotation that the parser leaves beside a
declaration belongs to the next declaration in the same search; the body of a class or an
object is a search of its own. A declaration without a name is left out.
-/

namespace KotlinLint

open Node

/-- The annotation that a node writes. -/
def AnnotationEntry.ofLabel? (source : Source) (label : Label) : Option (Placed AnnotationEntry) :=
  (AnnotationEntry.read (source.text label)).map (⟨·, label.span⟩)

/-- The kind of an annotation node. -/
def AnnotationEntry.nodeKind : String := "annotation"

namespace Declaration

/-- The annotations of a declaration node and the tokens of its modifier lists. -/
def modifierNodes (node : Node) : List Node :=
  node.children.flatMap fun child =>
    if child.kind = AnnotationEntry.nodeKind then [child]
    else if Text.endsWith child.kind "modifiers" then
      outermostIn (fun label children => label.kind = AnnotationEntry.nodeKind || children.isEmpty)
        (fun _ _ => true) child.children
    else []

/-- The annotations of a declaration node. -/
def annotationsOf (source : Source) (node : Node) : List (Placed AnnotationEntry) :=
  (modifierNodes node).filterMap fun child =>
    if child.kind = AnnotationEntry.nodeKind then AnnotationEntry.ofLabel? source child.label
    else none

/-- The modifier keywords of a declaration node. -/
def keywordsOf (source : Source) (node : Node) : List String :=
  ((modifierNodes node).filter (·.kind ≠ AnnotationEntry.nodeKind)).filterMap fun child =>
    let keyword := Text.trim (source.text child.label).toList
    if keyword.isEmpty then none else some (String.ofList keyword)

/-- The supertypes of a class or object node. -/
def supertypesOf (source : Source) (node : Node) : List (Placed TypeName) :=
  let entries := outermostIn (fun label _ => label.kind = "delegation_specifier")
    (fun label _ => label.kind = "delegation_specifiers") node.children
  entries.filterMap fun entry =>
    (TypeName.read (source.text entry.label)).map (⟨·, entry.span⟩)

mutual

/-- The keyword found at one child of a parameter: none when the search goes on behind it. -/
def bindingAt : Node → Option (Option Binding)
  | ⟨label, children⟩ =>
    if label.kind = "val" then some (some .val)
    else if label.kind = "var" then some (some .var)
    else if label.kind = "binding_pattern_kind" then some (bindingOf children)
    else none

/-- The first `val` or `var` among the children of a parameter; the first wrapped keyword ends
the search. -/
def bindingOf : List Node → Option Binding
  | [] => none
  | child :: rest =>
    match bindingAt child with
    | some binding => binding
    | none => bindingOf rest

end

/-- The parameter that a node declares. -/
def parameterOf? (source : Source) (node : Node) : Option Parameter :=
  (node.name? source).map fun name =>
    { name := name.value, span := node.span, binding := bindingOf node.children,
      annotations := annotationsOf source node }

/-- The parameters of the primary constructor of a class node. -/
def parametersOf (source : Source) (node : Node) : List Parameter :=
  match node.childOfKind? ["primary_constructor"] with
  | none => []
  | some primary =>
    (outermostIn (fun label _ => label.kind = "class_parameter") (fun _ _ => true)
      primary.children).filterMap (parameterOf? source)

/-- The head of the class that a node declares. -/
def classHead? (source : Source) (node : Node) : Option ClassHead :=
  (node.name? source).map fun name =>
    { name := name.value, nameSpan := name.span, span := node.span,
      kind := if (node.childOfKind? ["interface"]).isSome then .interface else .plain,
      modifiers := keywordsOf source node, annotations := annotationsOf source node,
      supertypes := supertypesOf source node, parameters := parametersOf source node }

/-- The head of the object that a node declares; only a companion object may have no name. -/
def objectHead (source : Source) (node : Node) : ObjectHead :=
  { name := ((node.name? source).map (·.value)).getD "Companion", span := node.span,
    modifiers := keywordsOf source node, annotations := annotationsOf source node,
    supertypes := supertypesOf source node }

/-- The function that a node declares. -/
def functionOf? (source : Source) (node : Node) : Option FunctionDeclaration :=
  (node.name? source).map fun name =>
    { name := name.value, nameSpan := name.span, span := node.span,
      modifiers := keywordsOf source node, annotations := annotationsOf source node,
      body := (node.childOfKind? ["function_body", "block"]).map (Block.ofNode source) }

/-- The property that a node declares, named by its variable or by itself. -/
def propertyOf? (source : Source) (node : Node) : Option PropertyDeclaration :=
  let variableName := (node.childOfKind? ["variable_declaration"]).bind (·.name? source)
  (variableName.or (node.name? source)).map fun name =>
    { name := name.value, span := node.span, annotations := annotationsOf source node }

/-- What a node can mean where declarations are looked for. -/
inductive Role where
  | classDeclaration
  | objectDeclaration
  | functionDeclaration
  | propertyDeclaration
  | annotationEntry
  /-- The node is entered. -/
  | wrapper
  /-- The node is passed over. -/
  | closed
deriving DecidableEq

/-- Kinds of nodes that hold no members, besides the expressions and the literals. -/
def closedKinds : List String :=
  ["package_header", "import", "import_header", "import_list", "annotated_lambda", "block",
    "function_body", "value_arguments", "modifiers", "line_comment", "block_comment"]

/-- Whether no declaration is looked for below nodes of a kind. -/
def isClosed (kind : String) : Bool :=
  Text.endsWith kind "_expression" || Text.endsWith kind "_literal" || closedKinds.contains kind

/-- The meaning of a node where declarations are looked for. -/
def roleOf (label : Label) : Role :=
  if label.kind = "class_declaration" then .classDeclaration
  else if label.kind = "object_declaration" ∨ label.kind = "companion_object" then
    .objectDeclaration
  else if label.kind = "function_declaration" then .functionDeclaration
  else if label.kind = "property_declaration" then .propertyDeclaration
  else if label.kind = AnnotationEntry.nodeKind then .annotationEntry
  else if label.named && !isClosed label.kind then .wrapper
  else .closed

/-- What a search for declarations meets, in order. -/
inductive Item where
  | annotationEntry (written : Placed AnnotationEntry)
  | declaration (written : Declaration)

/-- Attach each annotation to the next declaration, in front of the annotations it has. The
annotations after the last declaration are dropped. -/
def attach (pending : List (Placed AnnotationEntry)) : List Item → List Declaration
  | [] => []
  | .annotationEntry written :: rest => attach (pending ++ [written]) rest
  | .declaration written :: rest => written.prependAnnotations pending :: attach [] rest

/-- The kinds of the bodies of classes and objects. -/
def bodyKinds : List String := ["class_body", "enum_class_body"]

mutual

/-- The declaration that a node writes. -/
def ofNode? (source : Source) : Node → Option Declaration
  | ⟨label, children⟩ =>
    match roleOf label with
    | .classDeclaration =>
      (classHead? source ⟨label, children⟩).map (ofClass · (membersOf source children))
    | .objectDeclaration =>
      some (ofObject (objectHead source ⟨label, children⟩) (membersOf source children))
    | .functionDeclaration => (functionOf? source ⟨label, children⟩).map ofFunction
    | .propertyDeclaration => (propertyOf? source ⟨label, children⟩).map ofProperty
    | _ => none

/-- The members declared in the first body of a list of nodes. -/
def membersOf (source : Source) : List Node → List Declaration
  | [] => []
  | ⟨label, children⟩ :: rest =>
    if bodyKinds.contains label.kind then attach [] (items source children)
    else membersOf source rest

/-- What a search for declarations meets among nodes and below those that are entered. -/
def items (source : Source) : List Node → List Item
  | [] => []
  | ⟨label, children⟩ :: rest =>
    let first :=
      match roleOf label with
      | .annotationEntry => (AnnotationEntry.ofLabel? source label).toList.map .annotationEntry
      | .wrapper => items source children
      | .closed => []
      | _ => (ofNode? source ⟨label, children⟩).toList.map .declaration
    first ++ items source rest

end

/-- The declarations of a list of nodes, with their annotations. -/
def ofNodes (source : Source) (nodes : List Node) : List Declaration :=
  attach [] (items source nodes)

end Declaration

end KotlinLint
