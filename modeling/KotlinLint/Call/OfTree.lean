import KotlinLint.Call
import KotlinLint.Tree

/-!
# Calls of a syntax tree

The grammar writes a call as what is called, followed by suffixes: value arguments and trailing
lambdas. A call with arguments and then a lambda is one call for the reader, but may be two
nodes, the inner one with the arguments and the outer one with the lambda. So a call expression
that calls another one without giving it value arguments is joined with it: the joined call
takes the name of the inner one and the range of the outer one.
-/

namespace KotlinLint

open Node

namespace Call

/-- The kind of a call expression. -/
def expressionKind : String := "call_expression"

/-- The called name when the node has no part that holds it: what stands between the last dot
and the first parenthesis, without blanks and backquotes. -/
def nameFromText (text : List Char) : List Char :=
  let head := text.takeWhile (· != '(')
  let last := (head.reverse.takeWhile (· != '.')).reverse
  last.filter fun c => !Text.isBlank c && c != Text.backquote

mutual

/-- The name by which a node is called: a name itself, the selector of a navigation, and else
what its text says. -/
def calleeName (source : Source) : Node → String
  | ⟨label, children⟩ =>
    if nameKinds.contains label.kind then nameText source label
    else
      let selector :=
        if label.kind = "navigation_expression" ∨ label.kind = "navigation_suffix" then
          selectorName? source children
        else none
      selector.getD (String.ofList (nameFromText (source.text label).toList))

/-- The name by which the last named node of a list is called. -/
def selectorName? (source : Source) : List Node → Option String
  | [] => none
  | node :: rest =>
    (selectorName? source rest).or
      (if node.label.named then some (calleeName source node) else none)

end

/-- Whether the suffixes of a call give it value arguments. -/
def hasValueArguments (suffixes : List Node) : Bool :=
  suffixes.any fun node => node.label.named &&
    (node.kind = "value_arguments" || node.kind = "call_suffix" &&
      node.children.any fun child => child.label.named && child.kind = "value_arguments")

/-- What suffixes add to a call. -/
structure Parts where
  /-- The calls of the arguments. -/
  nested : List Call := []
  /-- The trailing lambdas. -/
  lambdas : List Block := []

/-- Parts in source order, each list by itself. -/
def Parts.append (first second : Parts) : Parts :=
  ⟨first.nested ++ second.nested, first.lambdas ++ second.lambdas⟩

instance : Append Parts := ⟨Parts.append⟩

/-- A call with more parts, over a range. -/
def extend (call : Call) (span : Span) (parts : Parts) : Call :=
  { call with
    span := span, nested := call.nested ++ parts.nested, lambdas := call.lambdas ++ parts.lambdas }

mutual

/-- The outermost calls of a node. -/
def ofNode (source : Source) : Node → List Call
  | ⟨label, children⟩ =>
    if label.kind = expressionKind then [ofChildren source label children]
    else ofNodes source children

/-- The outermost calls of a list of nodes. -/
def ofNodes (source : Source) : List Node → List Call
  | [] => []
  | node :: rest => ofNode source node ++ ofNodes source rest

/-- The call written by a call expression with these children. The first named child is what
is called, the named ones after it are the suffixes. -/
def ofChildren (source : Source) (label : Label) : List Node → Call
  | [] => ⟨"", label.span, [], []⟩
  | ⟨calleeLabel, calleeChildren⟩ :: rest =>
    if calleeLabel.named then
      let base :=
        if calleeLabel.kind = expressionKind ∧ hasValueArguments rest = false then
          ofChildren source calleeLabel calleeChildren
        else
          ⟨calleeName source ⟨calleeLabel, calleeChildren⟩, label.span,
            ofNode source ⟨calleeLabel, calleeChildren⟩, []⟩
      base.extend label.span (suffixes source rest)
    else ofChildren source label rest

/-- What the named nodes of a list add to the call that they follow. -/
def suffixes (source : Source) : List Node → Parts
  | [] => {}
  | ⟨label, children⟩ :: rest =>
    let first : Parts :=
      if label.named = false then {}
      else if label.kind = "annotated_lambda" then ⟨[], annotatedLambda source children⟩
      else if label.kind = "lambda_literal" then ⟨[], [⟨label.span, ofNodes source children⟩]⟩
      else if label.kind = "call_suffix" then suffixes source children
      else ⟨ofNode source ⟨label, children⟩, []⟩
    first ++ suffixes source rest

/-- The first lambda among the children of an annotated lambda, as a list of at most one block. -/
def annotatedLambda (source : Source) : List Node → List Block
  | [] => []
  | ⟨label, children⟩ :: rest =>
    if label.kind = "lambda_literal" then [⟨label.span, ofNodes source children⟩]
    else annotatedLambda source rest

end

end Call

/-- The block of a body or lambda node. -/
def Block.ofNode (source : Source) (node : Node) : Block :=
  ⟨node.span, Call.ofNodes source node.children⟩

end KotlinLint
