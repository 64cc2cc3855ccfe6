import KotlinLint.Proofs.Call.Ranges
import KotlinLint.Proofs.Declaration.Origin

/-!
# Ranges of declarations

The stops of a walk follow each other in the source (`walk_inLine`), although they are lifted out
of the nodes that the walk goes below. So the declarations of one search do, and the annotations
that wait for a declaration stop before it starts. What a declaration says about itself is read
inside its node (`Declaration.nests_of_reads`).
-/

namespace KotlinLint

open Node

namespace Declaration

/-- Where the name, the parameters and the supertypes of a declaration are written, as far as it
has them. -/
def partSpans : Declaration → List Span
  | ofClass head _ =>
    head.nameSpan :: (head.parameters.map (·.span) ++ head.supertypes.map (·.span))
  | ofObject head _ => head.supertypes.map (·.span)
  | ofFunction function => [function.nameSpan]
  | ofProperty _ => []

/-- The parameters of a declaration; only classes have some. -/
def parameters : Declaration → List Parameter
  | ofClass head _ => head.parameters
  | _ => []

/-- The body of a declaration; only functions have one. -/
def body? (declaration : Declaration) : Option Block := declaration.function?.bind (·.body)

/-- Whether declarations follow each other inside a span. -/
structure InLine (outer : Span) (declarations : List Declaration) : Prop where
  inside : ∀ declaration ∈ declarations, declaration.span.Within outer
  beside : declarations.Pairwise fun first second => first.span.stop ≤ second.span.start

/-- Whether a declaration has annotations from before a node of a tree, and then those that the
node itself has. -/
structure AnnotatedBy (source : Source) (root : Node) (declaration : Declaration) (node : Node)
    (carried : List (Placed AnnotationEntry)) : Prop where
  inTree : root.Contains node
  writes : node.Writes source declaration
  span : declaration.span = node.span
  annotations : declaration.annotations = carried ++ node.ownAnnotations source
  /-- The node's own annotations are inside the declaration. -/
  own : ∀ entry ∈ node.ownAnnotations source, entry.span.Within declaration.span
  /-- Annotations that were carried over stop before the declaration starts. -/
  carried : ∀ entry ∈ carried, entry.span.stop ≤ declaration.span.start

/-- Whether the parts of a declaration nest as they do in the source. -/
structure Nests (source : Source) (root : Node) (declaration : Declaration) : Prop where
  members : InLine declaration.span declaration.members
  parts : ∀ span ∈ declaration.partSpans, span.Within declaration.span
  /-- The annotations of a parameter are inside it. -/
  parameters : ∀ parameter ∈ declaration.parameters, ∀ entry ∈ parameter.annotations,
    entry.span.Within parameter.span
  body : ∀ block, declaration.body? = some block →
    block.span.Within declaration.span ∧ block.Nests
  annotations : ∃ node carried, declaration.AnnotatedBy source root node carried

end Declaration

section Walk

/-- The stops of a walk through nodes that follow each other do so as well. -/
theorem walk_inLine : ∀ (nodes : List Node) (low high : Nat), InLine low high nodes →
    (∀ node ∈ nodes, node.Everywhere Ranged) → InLine low high ((walk nodes).map Stop.node)
  | [], low, high, _, _ => by
    rw [walk]
    exact .nil
  | ⟨label, children⟩ :: rest, low, high, line, ranged => by
    obtain ⟨first, later⟩ := List.forall_mem_cons.mp ranged
    obtain ⟨here, below⟩ := everywhere_mk.mp first
    have starts : low ≤ label.start := line.low _ List.mem_cons_self
    have stops : label.stop ≤ high := line.high _ List.mem_cons_self
    have ordered : label.start ≤ label.stop := here.ordered
    have inside := walk_inLine children label.start label.stop here.children below
    have after := walk_inLine rest label.stop high line.rest later
    have shifted : ((walk rest).map Stop.shift).map Stop.node = (walk rest).map Stop.node := by
      rw [List.map_map]
      rfl
    have lifted : ((walk children).map Stop.below).map Stop.node =
        (walk children).map Stop.node := by
      rw [List.map_map]
      rfl
    rw [walk, List.map_append, shifted]
    refine .append ?_ after (Nat.le_trans starts ordered) stops
    split
    · exact .single starts (Nat.le_refl _)
    · split
      · rw [lifted]
        exact inside.widen starts (Nat.le_refl _)
      · exact .nil

end Walk

section Parts

variable {source : Source} {node : Node}

/-- An annotation has the range of its node. -/
theorem AnnotationEntry.span_of_ofLabel? {label : Label} {entry : Placed AnnotationEntry}
    (reads : AnnotationEntry.ofLabel? source label = some entry) : entry.span = label.span := by
  obtain ⟨value, _, rfl⟩ := Option.map_eq_some_iff.mp reads
  rfl

/-- The name of a node is inside the node. -/
theorem Node.name?_within (ranged : node.Everywhere Ranged) {name : Placed String}
    (isName : node.name? source = some name) : name.span.Within node.span := by
  obtain ⟨holder, isHolder, rfl⟩ := Option.map_eq_some_iff.mp isName
  have isChild : holder ∈ node.children := List.mem_of_find?_eq_some isHolder
  exact (encloses_child isChild).contains.spanWithin ranged

namespace Declaration

/-- The annotations and the modifiers of a node are in the node. -/
theorem contains_of_mem_modifierNodes {inner : Node} (listed : inner ∈ modifierNodes node) :
    node.Contains inner := by
  obtain ⟨child, isChild, found⟩ := List.mem_flatMap.mp listed
  have around : node.Contains child := (encloses_child isChild).contains
  split at found
  · rw [List.mem_singleton.mp found]
    exact around
  · split at found
    · exact around.trans (Encloses.contains (exists_root_of_mem_outermostIn _ found))
    · cases found

/-- The annotations of a node are inside the node. -/
theorem annotationsOf_within (ranged : node.Everywhere Ranged) :
    ∀ entry ∈ annotationsOf source node, entry.span.Within node.span := by
  intro entry listed
  obtain ⟨inner, isModifier, reads⟩ := List.mem_filterMap.mp listed
  split at reads
  · rw [AnnotationEntry.span_of_ofLabel? reads]
    exact (contains_of_mem_modifierNodes isModifier).spanWithin ranged
  · cases reads

/-- The supertypes of a node are inside the node. -/
theorem supertypesOf_within (ranged : node.Everywhere Ranged) :
    ∀ entry ∈ supertypesOf source node, entry.span.Within node.span := by
  intro entry listed
  obtain ⟨inner, found, reads⟩ := List.mem_filterMap.mp listed
  obtain ⟨value, _, rfl⟩ := Option.map_eq_some_iff.mp reads
  have inside : node.Contains inner := Encloses.contains (exists_root_of_mem_outermostIn _ found)
  exact inside.spanWithin ranged

/-- The parameters of a node are read from what the node has. -/
theorem exists_node_of_mem_parametersOf {parameter : Parameter}
    (listed : parameter ∈ parametersOf source node) :
    ∃ inner, node.Contains inner ∧ parameterOf? source inner = some parameter := by
  rw [parametersOf] at listed
  cases found : node.childOfKind? ["primary_constructor"] with
  | none =>
    rw [found] at listed
    cases listed
  | some primary =>
    rw [found] at listed
    obtain ⟨inner, isInner, reads⟩ := List.mem_filterMap.mp listed
    have isChild : primary ∈ node.children := List.mem_of_find?_eq_some found
    have below : primary.Contains inner :=
      Encloses.contains (exists_root_of_mem_outermostIn _ isInner)
    exact ⟨inner, (encloses_child isChild).contains.trans below, reads⟩

/-- The parameters of a node are inside the node, and their annotations inside them. -/
theorem parametersOf_within (ranged : node.Everywhere Ranged) :
    ∀ parameter ∈ parametersOf source node, parameter.span.Within node.span ∧
      ∀ entry ∈ parameter.annotations, entry.span.Within parameter.span := by
  intro parameter listed
  obtain ⟨inner, inside, reads⟩ := exists_node_of_mem_parametersOf listed
  obtain ⟨name, _, rfl⟩ := Option.map_eq_some_iff.mp reads
  exact ⟨inside.spanWithin ranged, annotationsOf_within (ranged.of_contains inside)⟩

namespace ReadFrom

variable {written : Declaration}

/-- A declaration has the range of its node. -/
theorem span_eq (reads : ReadFrom source node written) : written.span = node.span := by
  cases reads with
  | ofClass members isHead =>
    obtain ⟨name, _, rfl⟩ := Option.map_eq_some_iff.mp isHead
    rfl
  | ofObject members => rfl
  | ofFunction isFunction =>
    obtain ⟨name, _, rfl⟩ := Option.map_eq_some_iff.mp isFunction
    rfl
  | ofProperty isProperty =>
    obtain ⟨name, _, rfl⟩ := Option.map_eq_some_iff.mp isProperty
    rfl

/-- The name, the parameters and the supertypes of a declaration are inside its node. -/
theorem partSpans_within (reads : ReadFrom source node written)
    (ranged : node.Everywhere Ranged) : ∀ span ∈ written.partSpans, span.Within node.span := by
  have supertypes : ∀ span ∈ (supertypesOf source node).map (·.span), span.Within node.span :=
    List.forall_mem_map.mpr (supertypesOf_within ranged)
  cases reads with
  | ofClass members isHead =>
    obtain ⟨name, isName, rfl⟩ := Option.map_eq_some_iff.mp isHead
    have parameters : ∀ span ∈ (parametersOf source node).map (·.span), span.Within node.span := by
      refine List.forall_mem_map.mpr fun parameter listed => ?_
      exact (parametersOf_within ranged parameter listed).1
    refine List.forall_mem_cons.mpr ⟨node.name?_within ranged isName, ?_⟩
    exact List.forall_mem_append.mpr ⟨parameters, supertypes⟩
  | ofObject members => exact supertypes
  | ofFunction isFunction =>
    obtain ⟨name, isName, rfl⟩ := Option.map_eq_some_iff.mp isFunction
    exact List.forall_mem_singleton.mpr (node.name?_within ranged isName)
  | ofProperty isProperty => exact List.forall_mem_nil _

/-- The annotations of parameters are inside the parameters. -/
theorem parameters_within (reads : ReadFrom source node written)
    (ranged : node.Everywhere Ranged) : ∀ parameter ∈ written.parameters,
      ∀ entry ∈ parameter.annotations, entry.span.Within parameter.span := by
  cases reads with
  | ofClass members isHead =>
    obtain ⟨name, _, rfl⟩ := Option.map_eq_some_iff.mp isHead
    exact fun parameter listed => (parametersOf_within ranged parameter listed).2
  | ofObject members => exact List.forall_mem_nil _
  | ofFunction isFunction => exact List.forall_mem_nil _
  | ofProperty isProperty => exact List.forall_mem_nil _

/-- The body of a declaration is inside its node, and its calls nest. -/
theorem body_within (reads : ReadFrom source node written) (ranged : node.Everywhere Ranged)
    {block : Block} (isBody : written.body? = some block) :
    block.span.Within node.span ∧ block.Nests := by
  cases reads with
  | ofClass members isHead => cases isBody
  | ofObject members => cases isBody
  | ofFunction isFunction =>
    obtain ⟨name, _, rfl⟩ := Option.map_eq_some_iff.mp isFunction
    obtain ⟨body, found, rfl⟩ := Option.map_eq_some_iff.mp isBody
    have isChild : body ∈ node.children := List.mem_of_find?_eq_some found
    have inside : node.Contains body := (encloses_child isChild).contains
    exact ⟨inside.spanWithin ranged, Block.nests_ofNode source (ranged.of_contains inside)⟩
  | ofProperty isProperty => cases isBody

end ReadFrom

/-- Annotations that are put in front leave the ranges of a declaration and its parts alone. -/
theorem spans_prependAnnotations (leading : List (Placed AnnotationEntry))
    (declaration : Declaration) :
    (declaration.prependAnnotations leading).span = declaration.span ∧
      (declaration.prependAnnotations leading).partSpans = declaration.partSpans ∧
      (declaration.prependAnnotations leading).parameters = declaration.parameters ∧
      (declaration.prependAnnotations leading).body? = declaration.body? := by
  cases declaration with
  | ofClass head members => exact ⟨rfl, rfl, rfl, rfl⟩
  | ofObject head members => exact ⟨rfl, rfl, rfl, rfl⟩
  | ofFunction function => exact ⟨rfl, rfl, rfl, rfl⟩
  | ofProperty property => exact ⟨rfl, rfl, rfl, rfl⟩

end Declaration

/-- A declaration that a node writes has the range of the node. -/
theorem Node.Writes.span_eq {declaration : Declaration} (writes : node.Writes source declaration) :
    declaration.span = node.span := by
  obtain ⟨written, leading, reads, rfl⟩ := writes
  rw [(Declaration.spans_prependAnnotations leading written).1]
  exact (Declaration.readFrom_of_ofNode? reads).span_eq

end Parts

namespace Declaration

variable {source : Source}

/-- A declaration is inside the node below which a search finds it. -/
theorem within_of_mem_ofNodes {parent : Node} (ranged : parent.Everywhere Ranged)
    {declaration : Declaration} (listed : declaration ∈ ofNodes source parent.children) :
    declaration.span.Within parent.span := by
  obtain ⟨child, isChild, node, below, writes⟩ := exists_node_of_mem_ofNodes listed
  have inside : parent.Contains node := Encloses.contains ⟨child, isChild, below⟩
  rw [writes.span_eq]
  exact inside.spanWithin ranged

/-- The declarations that a search finds below a node follow each other inside it. -/
theorem inLine_ofNodes (source : Source) {parent : Node} (ranged : parent.Everywhere Ranged) :
    InLine parent.span (ofNodes source parent.children) := by
  refine ⟨fun declaration listed => within_of_mem_ofNodes ranged listed, ?_⟩
  obtain ⟨stretches, left, divided, outputs⟩ := exists_stretches source parent.children
  obtain ⟨here, below⟩ := everywhere_iff.mp ranged
  have stops := walk_inLine parent.children _ _ here.children below
  have ends := (stops.sublist (divided.map_last_sublist.map Stop.node)).beside
  have spans : ∀ stretch ∈ stretches,
      (stretch.output source).span = stretch.last.node.span := by
    intro stretch listed
    have writes : stretch.last.node.Writes source (stretch.output source) :=
      ⟨stretch.written, _, divided.ends stretch listed, rfl⟩
    exact writes.span_eq
  rw [List.map_map, List.pairwise_map] at ends
  rw [outputs, List.pairwise_map]
  apply ends.imp_of_mem
  intro first second isFirst isSecond before
  rw [spans first isFirst, spans second isSecond]
  exact before

/-- The declarations in the body of a node follow each other inside the node. -/
theorem inLine_innerNodes (source : Source) {node : Node} (ranged : node.Everywhere Ranged) :
    InLine node.span (ofNodes source (innerNodes node)) := by
  rcases innerNodes_eq node with none | ⟨body, isBody, inBody⟩
  · rw [none]
    exact ⟨List.forall_mem_nil _, List.Pairwise.nil⟩
  · have around : node.Contains body := (encloses_child isBody).contains
    have line := inLine_ofNodes source (ranged.of_contains around)
    rw [inBody]
    exact ⟨fun member listed => (line.inside member listed).trans (around.spanWithin ranged),
      line.beside⟩

/-- The annotations that wait for a declaration stop before it starts. -/
theorem carried_before {parent : Node} {stretches : List Stretch} {left : List Stop}
    (ranged : parent.Everywhere Ranged)
    (divided : DividedInto source (walk parent.children) stretches left) {stretch : Stretch}
    (listed : stretch ∈ stretches) : ∀ entry ∈ annotationsAt source stretch.before,
      entry.span.stop ≤ stretch.last.node.label.start := by
  intro entry waits
  obtain ⟨stop, isBefore, reads⟩ := List.mem_filterMap.mp waits
  obtain ⟨here, below⟩ := everywhere_iff.mp ranged
  have stops := walk_inLine parent.children _ _ here.children below
  have part : stretch.stops.Sublist (walk parent.children) := by
    have isPart : stretch.stops ∈ stretches.map Stretch.stops := List.mem_map_of_mem listed
    rw [divided.whole, List.flatMap_def]
    exact (List.sublist_flatten_of_mem isPart).trans (List.sublist_append_left _ _)
  have ordered := (stops.sublist (part.map Stop.node)).beside
  rw [List.pairwise_map, Stretch.stops, List.pairwise_append] at ordered
  have before := ordered.2.2 stop isBefore stretch.last List.mem_cons_self
  rw [Stop.annotation?] at reads
  split at reads
  · rw [AnnotationEntry.span_of_ofLabel? reads]
    exact before
  · cases reads

variable {root : Node}

/-- What a node of a tree is read as nests as the source does, with annotations from before the
node. -/
theorem nests_of_reads (ranged : root.Everywhere Ranged) {node : Node}
    (inTree : root.Contains node) {written : Declaration}
    (reads : ofNode? source node = some written) {carried : List (Placed AnnotationEntry)}
    (before : ∀ entry ∈ carried, entry.span.stop ≤ node.label.start) :
    (written.prependAnnotations carried).Nests source root := by
  have nodeRanged := ranged.of_contains inTree
  have readFrom := readFrom_of_ofNode? reads
  obtain ⟨own, inner⟩ := annotations_members_of_ofNode? reads
  obtain ⟨sameSpan, sameParts, sameParameters, sameBody⟩ := spans_prependAnnotations carried written
  have span : (written.prependAnnotations carried).span = node.span :=
    sameSpan.trans readFrom.span_eq
  constructor
  · rw [members_prependAnnotations, inner, span]
    exact inLine_innerNodes source nodeRanged
  · rw [sameParts, span]
    exact readFrom.partSpans_within nodeRanged
  · rw [sameParameters]
    exact readFrom.parameters_within nodeRanged
  · rw [sameBody, span]
    exact fun block isBody => readFrom.body_within nodeRanged isBody
  · refine ⟨node, carried, inTree, ⟨written, carried, reads, rfl⟩, span, ?_, ?_, ?_⟩
    · rw [annotations_prependAnnotations, own, annotationsOf_eq]
    · rw [span, ← annotationsOf_eq]
      exact annotationsOf_within nodeRanged
    · rw [span]
      exact before

/-- Every declaration of a tree nests as the source does. -/
theorem nests_of_follow? (ranged : root.Everywhere Ranged) {declaration : Declaration}
    {path : List Nat}
    (leads : follow? (ofNodes source root.children) path = some declaration) :
    declaration.Nests source root := by
  obtain ⟨parent, around, listed⟩ := exists_search_of_follow? leads
  obtain ⟨stretches, left, divided, outputs⟩ := exists_stretches source parent.children
  rw [outputs] at listed
  obtain ⟨stretch, isStretch, rfl⟩ := List.mem_map.mp listed
  have isStop := divided.mem_of_mem_stops isStretch (List.mem_append_right _ List.mem_cons_self)
  have reached := (mem_walk_iff parent.children stretch.last).mp isStop
  have inTree := around.trans (Encloses.contains reached.exists_root)
  have before := carried_before (ranged.of_contains around) divided isStretch
  exact nests_of_reads ranged inTree (divided.ends stretch isStretch) before

end Declaration

end KotlinLint
