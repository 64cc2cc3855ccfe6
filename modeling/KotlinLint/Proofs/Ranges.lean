import KotlinLint.Proofs.Placement

/-!
# Ranges of nodes

A parser gives the children of a node ranges that follow each other inside the range of the node
(`Node.Ranged`). So all that a tree has is inside the range of its root
(`Node.Contains.spanWithin`).
-/

namespace KotlinLint

/-- Whether a span is inside another one and does not stop before it starts. -/
structure Span.Within (inner outer : Span) : Prop where
  starts : outer.start ≤ inner.start
  ordered : inner.start ≤ inner.stop
  stops : inner.stop ≤ outer.stop

/-- What is inside a span is inside those around it. -/
theorem Span.Within.trans {inner middle outer : Span} (below : inner.Within middle)
    (above : middle.Within outer) : inner.Within outer :=
  ⟨Nat.le_trans above.starts below.starts, below.ordered, Nat.le_trans below.stops above.stops⟩

namespace Node

/-- Whether the ranges of nodes follow each other between two places. -/
structure InLine (low high : Nat) (nodes : List Node) : Prop where
  /-- No node starts before the first place. -/
  low : ∀ node ∈ nodes, low ≤ node.label.start
  /-- No node stops after the last place. -/
  high : ∀ node ∈ nodes, node.label.stop ≤ high
  /-- A node stops before the ones after it start. -/
  beside : nodes.Pairwise fun first second => first.label.stop ≤ second.label.start

/-- What a parser says about the ranges of a node and its children. -/
structure Ranged (node : Node) : Prop where
  /-- The range does not stop before it starts. -/
  ordered : node.label.start ≤ node.label.stop
  /-- The children follow each other inside the range. -/
  children : InLine node.label.start node.label.stop node.children

/-- What a parser says about the ranges of a node as one condition, which can be tested. -/
theorem ranged_iff {node : Node} : node.Ranged ↔
    node.label.start ≤ node.label.stop ∧
      (∀ child ∈ node.children, node.label.start ≤ child.label.start) ∧
      (∀ child ∈ node.children, child.label.stop ≤ node.label.stop) ∧
      node.children.Pairwise fun first second => first.label.stop ≤ second.label.start :=
  ⟨fun ⟨ordered, ⟨low, high, beside⟩⟩ => ⟨ordered, low, high, beside⟩,
    fun ⟨ordered, low, high, beside⟩ => ⟨ordered, ⟨low, high, beside⟩⟩⟩

instance (node : Node) : Decidable node.Ranged := decidable_of_iff' _ ranged_iff

namespace InLine

variable {low middle high : Nat} {node : Node} {nodes first second : List Node}

/-- The nodes after the first one follow its end. -/
theorem rest (line : InLine low high (node :: nodes)) : InLine node.label.stop high nodes := by
  have follows := List.pairwise_cons.mp line.beside
  constructor
  · exact follows.1
  · intro other listed
    exact line.high other (List.mem_cons_of_mem _ listed)
  · exact follows.2

/-- No nodes are between any two places. -/
theorem nil : InLine low high [] :=
  ⟨List.forall_mem_nil _, List.forall_mem_nil _, List.Pairwise.nil⟩

/-- One node is between two places that are around it. -/
theorem single (starts : low ≤ node.label.start) (stops : node.label.stop ≤ high) :
    InLine low high [node] :=
  ⟨List.forall_mem_singleton.mpr starts, List.forall_mem_singleton.mpr stops,
    List.pairwise_singleton _ _⟩

/-- Nodes up to a place and nodes from there on follow each other. -/
theorem append (earlier : InLine low middle first) (later : InLine middle high second)
    (lower : low ≤ middle) (upper : middle ≤ high) : InLine low high (first ++ second) := by
  constructor
  · intro node listed
    rcases List.mem_append.mp listed with before | after
    · exact earlier.low node before
    · exact Nat.le_trans lower (later.low node after)
  · intro node listed
    rcases List.mem_append.mp listed with before | after
    · exact Nat.le_trans (earlier.high node before) upper
    · exact later.high node after
  · refine List.pairwise_append.mpr ⟨earlier.beside, later.beside, ?_⟩
    intro node before other after
    exact Nat.le_trans (earlier.high node before) (later.low other after)

/-- Nodes between two places are between places around them. -/
theorem widen {outerLow outerHigh : Nat} (line : InLine low high nodes) (lower : outerLow ≤ low)
    (upper : high ≤ outerHigh) : InLine outerLow outerHigh nodes :=
  ⟨fun node listed => Nat.le_trans lower (line.low node listed),
    fun node listed => Nat.le_trans (line.high node listed) upper, line.beside⟩

/-- Some of the nodes that follow each other do so. -/
theorem sublist (line : InLine low high nodes) (some : first.Sublist nodes) :
    InLine low high first :=
  ⟨fun node listed => line.low node (some.subset listed),
    fun node listed => line.high node (some.subset listed), line.beside.sublist some⟩

end InLine

/-- All that a tree has is inside the range of its root. -/
theorem Contains.spanWithin {root node : Node} (ranged : root.Everywhere Ranged)
    (inside : root.Contains node) : node.span.Within root.span := by
  have bounds := inside.within_of_children fun path parent reached child isChild =>
    have line := (ranged path parent reached).children
    ⟨line.low child isChild, line.high child isChild⟩
  obtain ⟨path, reached⟩ := inside
  exact ⟨bounds.1, (ranged path node reached).ordered, bounds.2⟩

/-- What holds everywhere in a tree holds everywhere below what the tree has. -/
theorem Everywhere.of_contains {Holds : Node → Prop} {root node : Node}
    (everywhere : root.Everywhere Holds) (inside : root.Contains node) :
    node.Everywhere Holds := by
  intro path inner reached
  obtain ⟨through, leads⟩ := inside.trans ⟨path, reached⟩
  exact everywhere through inner leads

section Search

variable {wanted entered : Label → List Node → Bool} {node : Node}

mutual

/-- What a search from a node finds is in its tree. -/
theorem contains_of_mem_outermost : ∀ root : Node,
    node ∈ root.outermost wanted entered → root.Contains node
  | ⟨label, children⟩, found => by
    rw [outermost] at found
    split at found
    · rw [List.mem_singleton.mp found]
      exact .refl _
    · split at found
      · have below := exists_root_of_mem_outermostIn children found
        exact Encloses.contains below
      · cases found

/-- What a search from some nodes finds is in a tree of them. -/
theorem exists_root_of_mem_outermostIn : ∀ nodes : List Node,
    node ∈ outermostIn wanted entered nodes → ∃ root ∈ nodes, root.Contains node
  | [], found => by
    rw [outermostIn] at found
    cases found
  | first :: rest, found => by
    rw [outermostIn] at found
    rcases List.mem_append.mp found with here | later
    · exact ⟨first, List.mem_cons_self, contains_of_mem_outermost first here⟩
    · obtain ⟨root, listed, inside⟩ := exists_root_of_mem_outermostIn rest later
      exact ⟨root, List.mem_cons_of_mem _ listed, inside⟩

end

end Search

end Node

end KotlinLint
