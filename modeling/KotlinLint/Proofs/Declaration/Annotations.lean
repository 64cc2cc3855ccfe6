import KotlinLint.Declaration.OfTree
import KotlinLint.Proofs.Query

/-!
# Annotations of declaration nodes

A declaration has the annotations that its node writes itself, as children, and those in the lists
of modifiers among its children, at any depth but not inside each other (`Node.ownAnnotations`).
These are the annotations that are read from the node (`Declaration.annotationsOf_eq`).
-/

namespace KotlinLint

namespace Node

/-- The annotation that the text of a node writes, with the place of the node. -/
def writtenAnnotation? (source : Source) (node : Node) : Option (Placed AnnotationEntry) :=
  (AnnotationEntry.read (source.text node.label)).map fun entry =>
    { value := entry, span := node.label.span }

mutual

/-- The annotation nodes from a node on, without those inside another one. -/
def annotationNodes : Node → List Node
  | ⟨label, children⟩ =>
    if label.kind = "annotation" then [⟨label, children⟩] else annotationNodesAmong children

/-- The annotation nodes from some nodes on, in order. -/
def annotationNodesAmong : List Node → List Node
  | [] => []
  | node :: rest => node.annotationNodes ++ annotationNodesAmong rest

end

/-- From an annotation on there is no other one; from any other node on there are those among its
children. -/
theorem annotationNodes_eq (node : Node) : node.annotationNodes =
    if node.kind = "annotation" then [node] else annotationNodesAmong node.children := by
  obtain ⟨label, children⟩ := node
  rw [annotationNodes]
  rfl

/-- The annotation nodes that belong to a declaration node: those from its annotations and its
lists of modifiers on. -/
def ownAnnotationNodes (node : Node) : List Node :=
  node.children.flatMap fun child =>
    if child.kind = "annotation" ∨ "modifiers".toList <:+ child.kind.toList then
      child.annotationNodes
    else []

/-- The annotations that belong to a declaration node. -/
def ownAnnotations (source : Source) (node : Node) : List (Placed AnnotationEntry) :=
  node.ownAnnotationNodes.filterMap (writtenAnnotation? source)

end Node

namespace Declaration

/-- The annotation that is read at a node among modifiers, unless the node is a keyword. -/
def modifierAnnotation? (source : Source) (node : Node) : Option (Placed AnnotationEntry) :=
  if node.kind = "annotation" then node.writtenAnnotation? source else none

section OwnAnnotations

variable (source : Source)

mutual

/-- Of what is looked at from a node on in a list of modifiers, the annotations are read. -/
theorem filterMap_outermost : ∀ node : Node,
    (node.outermost (fun label children => label.kind = "annotation" || children.isEmpty)
      (fun _ _ => true)).filterMap (modifierAnnotation? source) =
      node.annotationNodes.filterMap (Node.writtenAnnotation? source)
  | ⟨label, children⟩ => by
    have inside := filterMap_outermostIn children
    rw [Node.outermost, Node.annotationNodes]
    by_cases annotates : label.kind = "annotation"
    · have entry : modifierAnnotation? source ⟨label, children⟩ =
          Node.writtenAnnotation? source ⟨label, children⟩ := if_pos annotates
      rw [if_pos (by simp [annotates]), if_pos annotates, List.filterMap_cons, List.filterMap_cons,
        entry, List.filterMap_nil, List.filterMap_nil]
    · cases children with
      | nil =>
        have keyword : modifierAnnotation? source ⟨label, []⟩ = none := if_neg annotates
        rw [if_pos (by simp), if_neg annotates, Node.annotationNodesAmong, List.filterMap_nil,
          List.filterMap_cons_none keyword, List.filterMap_nil]
      | cons first rest =>
        rw [if_neg (by simp [annotates]), if_pos rfl, if_neg annotates, inside]

/-- Of what is looked at in a list of modifiers, the annotations are read. -/
theorem filterMap_outermostIn : ∀ nodes : List Node,
    (Node.outermostIn (fun label children => label.kind = "annotation" || children.isEmpty)
      (fun _ _ => true) nodes).filterMap (modifierAnnotation? source) =
      (Node.annotationNodesAmong nodes).filterMap (Node.writtenAnnotation? source)
  | [] => by
    rw [Node.outermostIn, Node.annotationNodesAmong, List.filterMap_nil, List.filterMap_nil]
  | node :: rest => by
    rw [Node.outermostIn, Node.annotationNodesAmong, List.filterMap_append, List.filterMap_append,
      filterMap_outermost node, filterMap_outermostIn rest]

end

/-- The annotations that are read from a declaration node are those that belong to it. -/
theorem annotationsOf_eq (node : Node) :
    annotationsOf source node = node.ownAnnotations source := by
  have reads : annotationsOf source node =
      (modifierNodes node).filterMap (modifierAnnotation? source) := rfl
  rw [reads, modifierNodes, Node.ownAnnotations, Node.ownAnnotationNodes, List.filterMap_flatMap,
    List.filterMap_flatMap]
  refine congrArg (node.children.flatMap ·) (funext fun child => ?_)
  by_cases annotates : child.kind = "annotation"
  · have entry : modifierAnnotation? source child = child.writtenAnnotation? source :=
      if_pos annotates
    rw [AnnotationEntry.nodeKind, if_pos annotates, if_pos (.inl annotates),
      Node.annotationNodes_eq, if_pos annotates, List.filterMap_cons, List.filterMap_cons, entry,
      List.filterMap_nil, List.filterMap_nil]
  · rw [AnnotationEntry.nodeKind, if_neg annotates]
    by_cases modifies : "modifiers".toList <:+ child.kind.toList
    · rw [if_pos ((Text.endsWith_iff _ _).mpr modifies), if_pos (.inr modifies),
        Node.annotationNodes_eq, if_neg annotates, filterMap_outermostIn]
    · have others : ¬ Text.endsWith child.kind "modifiers" = true := by
        rwa [Text.endsWith_iff]
      rw [if_neg others, if_neg (not_or.mpr ⟨annotates, modifies⟩), List.filterMap_nil,
        List.filterMap_nil]

end OwnAnnotations

end Declaration

end KotlinLint
