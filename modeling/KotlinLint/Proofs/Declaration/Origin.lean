import KotlinLint.Proofs.Declaration.Attachment
import KotlinLint.Proofs.Placement

/-!
# Where declarations come from

Every declaration of a tree, at any depth, is what one declaration node of the tree is read as, up
to annotations that stand beside it (`Declaration.exists_node_of_follow?`). A class has the name
that a child of its node holds, and the body of a function is read from a child of its node.
-/

namespace KotlinLint

/-- Whether a declaration is what a node is read as, with annotations from beside the node. -/
def Node.Writes (source : Source) (node : Node) (declaration : Declaration) : Prop :=
  ∃ written leading, Declaration.ofNode? source node = some written ∧
    declaration = written.prependAnnotations leading

/-- A stop that a walk through some nodes comes to is in one of them. -/
theorem Stop.ReachedFrom.exists_root {nodes : List Node} {stop : Stop}
    (reached : stop.ReachedFrom nodes) : ∃ root ∈ nodes, root.Contains stop.node := by
  have leads := reached.leads
  cases path : stop.path with
  | nil => exact absurd path reached.path_ne_nil
  | cons position rest =>
    rw [path, Path.follow?, Option.bind_eq_some_iff] at leads
    obtain ⟨root, found, further⟩ := leads
    exact ⟨root, List.mem_of_getElem? found, rest, further⟩

namespace Declaration

variable {source : Source}

/-- What a search among some nodes finds is written by nodes that these have. -/
theorem exists_node_of_mem_ofNodes {nodes : List Node} {declaration : Declaration}
    (listed : declaration ∈ ofNodes source nodes) :
    ∃ root ∈ nodes, ∃ node, root.Contains node ∧ node.Writes source declaration := by
  obtain ⟨stretches, left, divided, outputs⟩ := exists_stretches source nodes
  rw [outputs] at listed
  obtain ⟨stretch, isStretch, rfl⟩ := List.mem_map.mp listed
  have isStop := divided.mem_of_mem_stops isStretch (List.mem_append_right _ List.mem_cons_self)
  obtain ⟨root, isRoot, inside⟩ := ((mem_walk_iff nodes stretch.last).mp isStop).exists_root
  exact ⟨root, isRoot, stretch.last.node, inside, stretch.written, _,
    divided.ends stretch isStretch, rfl⟩

/-- The members of a declaration are written inside its node. -/
theorem exists_node_of_mem_members {node : Node} {declaration member : Declaration}
    (writes : node.Writes source declaration) (isMember : member ∈ declaration.members) :
    ∃ inner, node.Contains inner ∧ inner.Writes source member := by
  obtain ⟨written, leading, reads, rfl⟩ := writes
  rw [members_prependAnnotations, (annotations_members_of_ofNode? reads).2] at isMember
  obtain ⟨root, isInner, inner, below, writesMember⟩ := exists_node_of_mem_ofNodes isMember
  refine ⟨inner, ?_, writesMember⟩
  rcases innerNodes_eq node with none | ⟨body, isBody, inBody⟩
  · rw [none] at isInner
    cases isInner
  · rw [inBody] at isInner
    have around : node.Contains root :=
      (Node.encloses_child isBody).contains.trans (Node.encloses_child isInner).contains
    exact around.trans below

/-- A declaration that a path leads to from one that a node writes is written inside the node. -/
theorem exists_node_of_descend? {node : Node} {outer declaration : Declaration} {path : List Nat}
    (writes : node.Writes source outer)
    (leads : Path.descend? members outer path = some declaration) :
    ∃ inner, node.Contains inner ∧ inner.Writes source declaration := by
  induction path generalizing node outer with
  | nil =>
    have same : outer = declaration := Option.some.inj leads
    exact ⟨node, .refl node, same ▸ writes⟩
  | cons position path ih =>
    rw [Path.descend?, Option.bind_eq_some_iff] at leads
    obtain ⟨member, found, leads⟩ := leads
    obtain ⟨inner, around, writesMember⟩ :=
      exists_node_of_mem_members writes (List.mem_of_getElem? found)
    obtain ⟨deeper, below, writesDeclaration⟩ := ih writesMember leads
    exact ⟨deeper, around.trans below, writesDeclaration⟩

/-- Every declaration of a tree is written by a node of the tree. -/
theorem exists_node_of_follow? {root : Node} {declaration : Declaration} {path : List Nat}
    (leads : follow? (ofNodes source root.children) path = some declaration) :
    ∃ node, root.Contains node ∧ node.Writes source declaration := by
  cases path with
  | nil => cases leads
  | cons position path =>
    rw [follow?, Path.follow?, Option.bind_eq_some_iff] at leads
    obtain ⟨outer, found, leads⟩ := leads
    obtain ⟨child, isChild, node, below, writes⟩ :=
      exists_node_of_mem_ofNodes (List.mem_of_getElem? found)
    obtain ⟨inner, deeper, writesDeclaration⟩ := exists_node_of_descend? writes leads
    have around : root.Contains node := (Node.encloses_child isChild).contains.trans below
    exact ⟨inner, around.trans deeper, writesDeclaration⟩

/-- Every declaration of a tree is found by a search below a node of the tree. -/
theorem exists_search_of_follow? {root : Node} {declaration : Declaration} {path : List Nat}
    (leads : follow? (ofNodes source root.children) path = some declaration) :
    ∃ parent, root.Contains parent ∧ declaration ∈ ofNodes source parent.children := by
  rcases List.eq_nil_or_concat' path with rfl | ⟨outer, position, rfl⟩
  · cases leads
  by_cases top : outer = []
  · subst top
    rw [follow?, List.nil_append, Path.follow?, Option.bind_eq_some_iff] at leads
    obtain ⟨found, isFound, same⟩ := leads
    rw [← Option.some.inj same]
    exact ⟨root, .refl root, List.mem_of_getElem? isFound⟩
  · rw [follow?, Path.follow?_concat members _ top, Option.bind_eq_some_iff] at leads
    obtain ⟨around, leadsAround, found⟩ := leads
    obtain ⟨node, inTree, written, leading, reads, rfl⟩ := exists_node_of_follow? leadsAround
    have isMember := List.mem_of_getElem? found
    rw [members_prependAnnotations, (annotations_members_of_ofNode? reads).2] at isMember
    rcases innerNodes_eq node with none | ⟨body, isChild, inner⟩
    · rw [none] at isMember
      cases isMember
    · rw [inner] at isMember
      exact ⟨body, inTree.trans (Node.encloses_child isChild).contains, isMember⟩

end Declaration

/-- The kinds of the nodes that are read as a declaration of the same sort. -/
def Declaration.writingKinds : Declaration → List String
  | ofClass _ _ => ["class_declaration"]
  | ofObject _ _ => ["object_declaration", "companion_object"]
  | ofFunction _ => ["function_declaration"]
  | ofProperty _ => ["property_declaration"]

/-- The sort of a declaration tells the kind of its node. -/
theorem Declaration.kind_mem_writingKinds {source : Source} {node : Node} {written : Declaration}
    (reads : Declaration.ofNode? source node = some written) :
    node.kind ∈ written.writingKinds := by
  have kinds := kind_mem_nodeKinds reads
  simp only [nodeKinds, List.mem_cons, List.not_mem_nil, or_false] at kinds
  rcases kinds with kind | kind | kind | kind | kind
  · rw [ofNode?_of_class source kind] at reads
    obtain ⟨head, _, rfl⟩ := Option.map_eq_some_iff.mp reads
    exact List.mem_singleton.mpr kind
  · have isObject : node.kind ∈ ["object_declaration", "companion_object"] := by simp [kind]
    rw [ofNode?_of_object source isObject] at reads
    exact Option.some.inj reads ▸ isObject
  · have isObject : node.kind ∈ ["object_declaration", "companion_object"] := by simp [kind]
    rw [ofNode?_of_object source isObject] at reads
    exact Option.some.inj reads ▸ isObject
  · rw [ofNode?_of_function source kind] at reads
    obtain ⟨function, _, rfl⟩ := Option.map_eq_some_iff.mp reads
    exact List.mem_singleton.mpr kind
  · rw [ofNode?_of_property source kind] at reads
    obtain ⟨property, _, rfl⟩ := Option.map_eq_some_iff.mp reads
    exact List.mem_singleton.mpr kind

namespace Node.Writes

variable {source : Source} {node : Node}

/-- A class is written by a class declaration with a name node, which holds the name. -/
theorem ofClass {head : ClassHead} {members : List Declaration}
    (writes : node.Writes source (.ofClass head members)) :
    node.kind = "class_declaration" ∧ ∃ name, node.nameNode? = some name ∧
      head.name = nameText source name.label ∧ head.nameSpan = name.span := by
  obtain ⟨written, leading, reads, same⟩ := writes
  cases written with
  | ofClass own inner =>
    have kind := List.mem_singleton.mp (Declaration.kind_mem_writingKinds reads)
    rw [Declaration.ofNode?_of_class source kind] at reads
    obtain ⟨found, isHead, sameDeclaration⟩ := Option.map_eq_some_iff.mp reads
    obtain ⟨name, isName, rfl⟩ := Option.map_eq_some_iff.mp isHead
    obtain ⟨holder, isHolder, rfl⟩ := Option.map_eq_some_iff.mp isName
    injection sameDeclaration with ownHead _
    injection same with heads _
    rw [heads, ← ownHead]
    exact ⟨kind, holder, isHolder, rfl, rfl⟩
  | ofObject own inner => cases same
  | ofFunction own => cases same
  | ofProperty own => cases same

/-- A function is written by a function declaration, and its body is read from the first child
that is one. -/
theorem ofFunction {function : FunctionDeclaration}
    (writes : node.Writes source (.ofFunction function)) :
    node.kind = "function_declaration" ∧ function.body =
      (node.childOfKind? ["function_body", "block"]).map (Block.ofNode source) := by
  obtain ⟨written, leading, reads, same⟩ := writes
  cases written with
  | ofFunction own =>
    have kind := List.mem_singleton.mp (Declaration.kind_mem_writingKinds reads)
    rw [Declaration.ofNode?_of_function source kind] at reads
    obtain ⟨found, isFunction, sameDeclaration⟩ := Option.map_eq_some_iff.mp reads
    obtain ⟨name, isName, rfl⟩ := Option.map_eq_some_iff.mp isFunction
    injection sameDeclaration with ownFunction
    injection same with functions
    rw [functions, ← ownFunction]
    exact ⟨kind, rfl⟩
  | ofClass own inner => cases same
  | ofObject own inner => cases same
  | ofProperty own => cases same

end Node.Writes

end KotlinLint
