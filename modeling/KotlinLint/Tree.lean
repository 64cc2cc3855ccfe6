import KotlinLint.Span
import KotlinLint.Text.Cut

/-!
# Concrete syntax trees

A parser of Kotlin answers a tree of nodes, each with its kind and its range in the source.
Tokens without a name of their own have their text as their kind. The tree of a text with syntax
errors is a tree like any other, with nodes that stand for what could not be read.
-/

namespace KotlinLint

/-- What a node of a syntax tree says about itself. -/
structure Label where
  /-- The grammar's name for the node. -/
  kind : String
  /-- Whether the node is a construct of the grammar and not a bare token. -/
  named : Bool
  /-- First byte of the node. -/
  start : Nat
  /-- First byte after the node. -/
  stop : Nat
  /-- Line of the first byte, counted from zero. -/
  row : Nat
  /-- Byte column of the first byte, counted from zero. -/
  column : Nat
deriving DecidableEq

/-- The range of a node, with its line and column counted from one. -/
def Label.span (label : Label) : Span :=
  ⟨label.start, label.stop, label.row + 1, label.column + 1⟩

/-- A node with its children in source order. -/
structure Node where
  label : Label
  children : List Node

/-- A whole source as a tree. -/
structure Tree where
  root : Node
  /-- Whether the parser met a syntax error anywhere. -/
  hasError : Bool

/-- The bytes of a source. -/
structure Source where
  bytes : ByteArray

namespace Source

/-- The source that holds a text. -/
def ofString (text : String) : Source := ⟨text.toUTF8⟩

/-- The text of a node. A range that does not fall on characters has no text. -/
def text (source : Source) (label : Label) : String :=
  (String.fromUTF8? (source.bytes.extract label.start label.stop)).getD ""

end Source

namespace Node

/-- The grammar's name for a node. -/
def kind (node : Node) : String := node.label.kind

/-- The range of a node, with its line and column counted from one. -/
def span (node : Node) : Span := node.label.span

/-- The first child of one of some kinds. -/
def childOfKind? (node : Node) (kinds : List String) : Option Node :=
  node.children.find? fun child => kinds.contains child.kind

mutual

/-- The outermost nodes that are wanted, searched for from a node on through nodes that may be
entered. -/
def outermost (wanted entered : Label → List Node → Bool) : Node → List Node
  | ⟨label, children⟩ =>
    if wanted label children then [⟨label, children⟩]
    else if entered label children then outermostIn wanted entered children
    else []

/-- The outermost wanted nodes of a list of trees, in order. -/
def outermostIn (wanted entered : Label → List Node → Bool) : List Node → List Node
  | [] => []
  | node :: rest => node.outermost wanted entered ++ outermostIn wanted entered rest

end

/-- The kinds of the nodes that hold a name. -/
def nameKinds : List String := ["identifier", "simple_identifier", "type_identifier"]

/-- The text of a name without the backquotes around it. -/
def nameText (source : Source) (label : Label) : String :=
  String.ofList (Text.unquote (source.text label).toList)

/-- The first child that holds a name. -/
def nameNode? (node : Node) : Option Node := node.childOfKind? nameKinds

/-- The name that a child of the node holds, with its place. -/
def name? (source : Source) (node : Node) : Option (Placed String) :=
  node.nameNode?.map fun child => ⟨nameText source child.label, child.span⟩

end Node

end KotlinLint
