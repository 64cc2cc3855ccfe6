import KotlinLint.Declaration.OfTree
import Mathlib.Tactic.ByContra

/-!
# What declaration nodes are read as

Five kinds of nodes declare something. A node of one of them is read as a declaration when it has
the name that it needs (`isSome_ofNode?_iff`); the declaration then has the annotations of its
node and the members that a search in its body finds (`annotations_members_of_ofNode?`). No other
node is read as a declaration (`ofNode?_eq_none`).
-/

namespace KotlinLint

/-- Whether a child of a node holds a name. -/
def Node.HasName (node : Node) : Prop :=
  ∃ child ∈ node.children, child.kind ∈ ["identifier", "simple_identifier", "type_identifier"]

/-- The search for the child that holds a name finds one when there is one. -/
theorem Node.isSome_nameNode?_iff (node : Node) : node.nameNode?.isSome ↔ node.HasName := by
  rw [nameNode?, childOfKind?, List.find?_isSome, HasName]
  simp only [nameKinds, List.contains_iff_mem]

namespace Declaration

/-- The kinds of the nodes that declare something. -/
def nodeKinds : List String :=
  ["class_declaration", "object_declaration", "companion_object", "function_declaration",
    "property_declaration"]

/-- Whether a node is read as a declaration: an object always is, the others need a name. -/
inductive Declares (node : Node) : Prop where
  /-- The node is an object. -/
  | object : node.kind ∈ ["object_declaration", "companion_object"] → Declares node
  /-- The node has a name. -/
  | named : node.kind ∈ ["class_declaration", "function_declaration", "property_declaration"] →
      node.HasName → Declares node
  /-- The variable of a property has a name. -/
  | ofVariable {declared : Node} : node.kind = "property_declaration" →
      node.children.find? (·.kind = "variable_declaration") = some declared → declared.HasName →
      Declares node

/-- The nodes in the first body of a class or an object; functions and properties have none. -/
def innerNodes (node : Node) : List Node :=
  if node.kind ∈ ["class_declaration", "object_declaration", "companion_object"] then
    ((node.children.find? fun child => child.kind ∈ ["class_body", "enum_class_body"]).map
      Node.children).getD []
  else []

/-- A node has no inner nodes, or those of a child that is its body. -/
theorem innerNodes_eq (node : Node) :
    innerNodes node = [] ∨ ∃ body ∈ node.children, innerNodes node = body.children := by
  rw [innerNodes]
  split
  · cases found : node.children.find? fun child =>
        child.kind ∈ ["class_body", "enum_class_body"] with
    | none => exact .inl rfl
    | some body => exact .inr ⟨body, List.mem_of_find?_eq_some found, rfl⟩
  · exact .inl rfl

/-- A node that declares nothing is an annotation, a wrapper or closed. -/
theorem roleOf_of_not_declares {label : Label} (noDeclaration : label.kind ∉ nodeKinds) :
    roleOf label =
      if label.kind = "annotation" then .annotationEntry
      else if label.named && !isClosed label.kind then .wrapper
      else .closed := by
  simp only [nodeKinds, List.mem_cons, List.not_mem_nil, or_false, not_or] at noDeclaration
  simp [roleOf, noDeclaration, AnnotationEntry.nodeKind]

/-- Only nodes of the kinds that declare something are read as declarations. -/
theorem ofNode?_eq_none {source : Source} {label : Label} {children : List Node}
    (noDeclaration : label.kind ∉ nodeKinds) : ofNode? source ⟨label, children⟩ = none := by
  rw [ofNode?, roleOf_of_not_declares noDeclaration]
  by_cases annotates : label.kind = "annotation"
  · rw [if_pos annotates]
  · rw [if_neg annotates]
    cases label.named && !isClosed label.kind <;> rfl

/-- The members of a node are the declarations among the children of its first body. -/
theorem membersOf_eq (source : Source) (nodes : List Node) :
    membersOf source nodes =
      ofNodes source (((nodes.find? fun child => bodyKinds.contains child.kind).map
        Node.children).getD []) := by
  induction nodes with
  | nil =>
    rw [membersOf, List.find?_nil, Option.map_none, Option.getD_none, ofNodes, items, attach]
  | cons node rest ih =>
    obtain ⟨label, children⟩ := node
    rw [membersOf, List.find?_cons]
    show _ = ofNodes source (((match bodyKinds.contains label.kind with
      | true => some (⟨label, children⟩ : Node)
      | false => _).map Node.children).getD [])
    cases bodyKinds.contains label.kind with
    | true => rfl
    | false => exact ih

/-- A node that is read as a declaration is of a kind that declares something. -/
theorem kind_mem_nodeKinds {source : Source} {node : Node} {written : Declaration}
    (reads : ofNode? source node = some written) : node.kind ∈ nodeKinds := by
  by_contra noDeclaration
  obtain ⟨label, children⟩ := node
  rw [ofNode?_eq_none noDeclaration] at reads
  cases reads

section Kinds

variable (source : Source) {node : Node}

/-- The node of a class is read as a class. -/
theorem ofNode?_of_class (kind : node.kind = "class_declaration") :
    ofNode? source node =
      (classHead? source node).map (ofClass · (membersOf source node.children)) := by
  obtain ⟨label, children⟩ := node
  have role : roleOf label = .classDeclaration := if_pos kind
  rw [ofNode?, role]

/-- The node of an object is read as an object. -/
theorem ofNode?_of_object (kind : node.kind ∈ ["object_declaration", "companion_object"]) :
    ofNode? source node =
      some (ofObject (objectHead source node) (membersOf source node.children)) := by
  obtain ⟨label, children⟩ := node
  have role : roleOf label = .objectDeclaration := by
    simp only [Node.kind, List.mem_cons, List.not_mem_nil, or_false] at kind
    rcases kind with kind | kind <;> simp [roleOf, kind]
  rw [ofNode?, role]

/-- The node of a function is read as a function. -/
theorem ofNode?_of_function (kind : node.kind = "function_declaration") :
    ofNode? source node = (functionOf? source node).map ofFunction := by
  obtain ⟨label, children⟩ := node
  have kind : label.kind = "function_declaration" := kind
  have role : roleOf label = .functionDeclaration := by simp [roleOf, kind]
  rw [ofNode?, role]

/-- The node of a property is read as a property. -/
theorem ofNode?_of_property (kind : node.kind = "property_declaration") :
    ofNode? source node = (propertyOf? source node).map ofProperty := by
  obtain ⟨label, children⟩ := node
  have kind : label.kind = "property_declaration" := kind
  have role : roleOf label = .propertyDeclaration := by simp [roleOf, kind]
  rw [ofNode?, role]

/-- A node has a name when one of its children holds a name. -/
theorem isSome_name?_iff : (node.name? source).isSome ↔ node.HasName := by
  rw [Node.name?, Option.isSome_map, node.isSome_nameNode?_iff]

end Kinds

/-- A declaration has the annotations of its node, and the members that are found in the body of
its node. -/
theorem annotations_members_of_ofNode? {source : Source} {node : Node} {written : Declaration}
    (reads : ofNode? source node = some written) :
    written.annotations = annotationsOf source node ∧
      written.members = ofNodes source (innerNodes node) := by
  have kinds := kind_mem_nodeKinds reads
  have inner : node.kind ∈ ["class_declaration", "object_declaration", "companion_object"] →
      membersOf source node.children = ofNodes source (innerNodes node) := by
    intro kind
    rw [innerNodes, if_pos kind, membersOf_eq]
    simp only [bodyKinds, List.contains_eq_mem]
  simp only [nodeKinds, List.mem_cons, List.not_mem_nil, or_false] at kinds
  rcases kinds with kind | kind | kind | kind | kind
  · rw [ofNode?_of_class source kind] at reads
    obtain ⟨head, isHead, rfl⟩ := Option.map_eq_some_iff.mp reads
    obtain ⟨name, _, rfl⟩ := Option.map_eq_some_iff.mp isHead
    exact ⟨rfl, inner (by simp [kind])⟩
  · rw [ofNode?_of_object source (by simp [kind])] at reads
    cases reads
    exact ⟨rfl, inner (by simp [kind])⟩
  · rw [ofNode?_of_object source (by simp [kind])] at reads
    cases reads
    exact ⟨rfl, inner (by simp [kind])⟩
  · rw [ofNode?_of_function source kind] at reads
    obtain ⟨function, isFunction, rfl⟩ := Option.map_eq_some_iff.mp reads
    obtain ⟨name, _, rfl⟩ := Option.map_eq_some_iff.mp isFunction
    refine ⟨rfl, ?_⟩
    rw [innerNodes, if_neg (by simp [kind]), ofNodes, items, attach]
    rfl
  · rw [ofNode?_of_property source kind] at reads
    obtain ⟨property, isProperty, rfl⟩ := Option.map_eq_some_iff.mp reads
    obtain ⟨name, _, rfl⟩ := Option.map_eq_some_iff.mp isProperty
    refine ⟨rfl, ?_⟩
    rw [innerNodes, if_neg (by simp [kind]), ofNodes, items, attach]
    rfl

/-- What a declaration node is read as, by its sort. -/
inductive ReadFrom (source : Source) (node : Node) : Declaration → Prop where
  /-- A class has the head of the node. -/
  | ofClass {head : ClassHead} (members : List Declaration) : classHead? source node = some head →
      ReadFrom source node (.ofClass head members)
  /-- An object has the head of the node. -/
  | ofObject (members : List Declaration) :
      ReadFrom source node (.ofObject (objectHead source node) members)
  /-- A function is that of the node. -/
  | ofFunction {function : FunctionDeclaration} : functionOf? source node = some function →
      ReadFrom source node (.ofFunction function)
  /-- A property is that of the node. -/
  | ofProperty {property : PropertyDeclaration} : propertyOf? source node = some property →
      ReadFrom source node (.ofProperty property)

/-- What a node is read as is of the sort of the node. -/
theorem readFrom_of_ofNode? {source : Source} {node : Node} {written : Declaration}
    (reads : ofNode? source node = some written) : ReadFrom source node written := by
  have kinds := kind_mem_nodeKinds reads
  simp only [nodeKinds, List.mem_cons, List.not_mem_nil, or_false] at kinds
  have object : node.kind ∈ ["object_declaration", "companion_object"] →
      ReadFrom source node written := by
    intro kind
    rw [ofNode?_of_object source kind] at reads
    rw [← Option.some.inj reads]
    exact .ofObject _
  rcases kinds with kind | kind | kind | kind | kind
  · rw [ofNode?_of_class source kind] at reads
    obtain ⟨head, isHead, rfl⟩ := Option.map_eq_some_iff.mp reads
    exact .ofClass _ isHead
  · exact object (by simp [kind])
  · exact object (by simp [kind])
  · rw [ofNode?_of_function source kind] at reads
    obtain ⟨function, isFunction, rfl⟩ := Option.map_eq_some_iff.mp reads
    exact .ofFunction isFunction
  · rw [ofNode?_of_property source kind] at reads
    obtain ⟨property, isProperty, rfl⟩ := Option.map_eq_some_iff.mp reads
    exact .ofProperty isProperty

/-- What is read as a declaration declares something by its kind. -/
theorem Declares.kind_mem_nodeKinds {node : Node} (declares : Declares node) :
    node.kind ∈ nodeKinds := by
  have objects : ∀ kind ∈ ["object_declaration", "companion_object"], kind ∈ nodeKinds := by
    decide
  have others : ∀ kind ∈ ["class_declaration", "function_declaration", "property_declaration"],
      kind ∈ nodeKinds := by
    decide
  cases declares with
  | object isObject => exact objects _ isObject
  | named isNamed _ => exact others _ isNamed
  | ofVariable isProperty _ _ =>
    rw [isProperty]
    decide

/-- A class or a function needs a name. -/
theorem Declares.hasName {node : Node} (declares : Declares node)
    (kind : node.kind ∈ ["class_declaration", "function_declaration"]) : node.HasName := by
  simp only [List.mem_cons, List.not_mem_nil, or_false] at kind
  cases declares with
  | object isObject => rcases kind with kind | kind <;> simp [kind] at isObject
  | named _ hasName => exact hasName
  | ofVariable isProperty _ _ => rcases kind with kind | kind <;> simp [kind] at isProperty

/-- A property has a name when its variable or the property itself has one. -/
theorem isSome_propertyOf?_iff (source : Source) (node : Node) :
    (propertyOf? source node).isSome ↔
      (∃ declared, node.children.find? (·.kind = "variable_declaration") = some declared ∧
        declared.HasName) ∨ node.HasName := by
  have search : node.childOfKind? ["variable_declaration"] =
      node.children.find? (·.kind = "variable_declaration") := by
    rw [Node.childOfKind?]
    simp only [List.contains_eq_mem, List.mem_singleton]
  rw [propertyOf?, Option.isSome_map, Option.isSome_or, Bool.or_eq_true, isSome_name?_iff, search]
  refine or_congr_left ?_
  cases node.children.find? (·.kind = "variable_declaration") with
  | none => simp
  | some declared => simp [isSome_name?_iff]

/-- A node is read as a declaration when it is of a kind that declares something and has the name
that it needs. -/
theorem isSome_ofNode?_iff (source : Source) (node : Node) :
    (ofNode? source node).isSome ↔ Declares node := by
  by_cases kinds : node.kind ∈ nodeKinds
  · simp only [nodeKinds, List.mem_cons, List.not_mem_nil, or_false] at kinds
    rcases kinds with kind | kind | kind | kind | kind
    · rw [ofNode?_of_class source kind, Option.isSome_map, classHead?, Option.isSome_map,
        isSome_name?_iff]
      exact ⟨.named (by simp [kind]), fun declares =>
        declares.hasName (by simp [kind])⟩
    · rw [ofNode?_of_object source (by simp [kind])]
      exact iff_of_true rfl (.object (by simp [kind]))
    · rw [ofNode?_of_object source (by simp [kind])]
      exact iff_of_true rfl (.object (by simp [kind]))
    · rw [ofNode?_of_function source kind, Option.isSome_map, functionOf?, Option.isSome_map,
        isSome_name?_iff]
      exact ⟨.named (by simp [kind]), fun declares =>
        declares.hasName (by simp [kind])⟩
    · rw [ofNode?_of_property source kind, Option.isSome_map, isSome_propertyOf?_iff]
      constructor
      · intro hasName
        rcases hasName with ⟨declared, found, hasName⟩ | hasName
        · exact .ofVariable kind found hasName
        · exact .named (by simp [kind]) hasName
      · intro declares
        cases declares with
        | object isObject => simp [kind] at isObject
        | named _ hasName => exact .inr hasName
        | ofVariable _ found hasName => exact .inl ⟨_, found, hasName⟩
  · refine iff_of_false ?_ ?_
    · intro reads
      obtain ⟨written, reads⟩ := Option.isSome_iff_exists.mp reads
      exact kinds (kind_mem_nodeKinds reads)
    · intro declares
      exact kinds declares.kind_mem_nodeKinds

end Declaration

end KotlinLint
