import KotlinLint.Proofs.Call.Expression

/-!
# Places of nodes

A parser gives each node a range of its source that starts and stops between characters, and
keeps the range of a child inside that of its parent (`Node.PlacedIn`). So all nodes of a tree are
inside the range of its root (`Node.Contains.within`), and the text of a node is what its source
has in its range (`Node.PlacedIn.text_eq`).
-/

namespace KotlinLint

namespace Node

/-- Whether a tree has a node. -/
def Contains (root node : Node) : Prop := ∃ path, root.at? path = some node

/-- Whether a node is strictly inside another one. -/
def Encloses (outer node : Node) : Prop := ∃ child ∈ outer.children, child.Contains node

/-- A tree has its root. -/
theorem Contains.refl (root : Node) : root.Contains root := ⟨[], rfl⟩

/-- What is strictly inside the root is in the tree. -/
theorem Encloses.contains {root node : Node} (inside : root.Encloses node) :
    root.Contains node := by
  obtain ⟨child, isChild, path, reached⟩ := inside
  obtain ⟨position, found⟩ := List.mem_iff_getElem?.mp isChild
  refine ⟨position :: path, ?_⟩
  rw [at?_cons, found]
  exact reached

/-- A child is strictly inside its parent. -/
theorem encloses_child {root child : Node} (isChild : child ∈ root.children) :
    root.Encloses child := ⟨child, isChild, .refl child⟩

/-- What a node of a tree has is in the tree. -/
theorem Contains.trans {root outer node : Node} (above : root.Contains outer)
    (below : outer.Contains node) : root.Contains node := by
  obtain ⟨path, reached⟩ := above
  induction path generalizing root with
  | nil =>
    have same : root = outer := Option.some.inj reached
    rw [same]
    exact below
  | cons position path ih =>
    rw [at?_cons, Option.bind_eq_some_iff] at reached
    obtain ⟨child, found, reached⟩ := reached
    exact Encloses.contains ⟨child, List.mem_of_getElem? found, ih reached⟩

/-- What a parser says about the places of a node and its children in a text. -/
structure PlacedIn (text : String) (node : Node) : Prop where
  /-- The range does not stop before it starts. -/
  ordered : node.label.start ≤ node.label.stop
  /-- Children are inside the range. -/
  children : ∀ child ∈ node.children,
    node.label.start ≤ child.label.start ∧ child.label.stop ≤ node.label.stop
  /-- The range starts between characters. -/
  starts : String.Pos.Raw.IsValid text ⟨node.label.start⟩
  /-- The range stops between characters. -/
  stops : String.Pos.Raw.IsValid text ⟨node.label.stop⟩

/-- What a parser says about the places of a node as one condition, which can be tested. -/
theorem placedIn_iff {text : String} {node : Node} : node.PlacedIn text ↔
    node.label.start ≤ node.label.stop ∧
      (∀ child ∈ node.children,
        node.label.start ≤ child.label.start ∧ child.label.stop ≤ node.label.stop) ∧
      String.Pos.Raw.IsValid text ⟨node.label.start⟩ ∧
      String.Pos.Raw.IsValid text ⟨node.label.stop⟩ :=
  ⟨fun ⟨ordered, children, starts, stops⟩ => ⟨ordered, children, starts, stops⟩,
    fun ⟨ordered, children, starts, stops⟩ => ⟨ordered, children, starts, stops⟩⟩

instance (text : String) (node : Node) : Decidable (node.PlacedIn text) :=
  decidable_of_iff' _ placedIn_iff

section Test

variable (Holds : Node → Prop) [DecidablePred Holds]

mutual

/-- Whether a condition holds everywhere in a tree can be tested when it can be at each node. -/
def decideEverywhere : (root : Node) → Decidable (root.Everywhere Holds)
  | ⟨label, children⟩ =>
    have := decideAllEverywhere children
    decidable_of_iff' (Holds ⟨label, children⟩ ∧ ∀ child ∈ children, child.Everywhere Holds)
      everywhere_mk

/-- Whether a condition holds everywhere in some trees can be tested when it can be at each
node. -/
def decideAllEverywhere : (nodes : List Node) → Decidable (∀ node ∈ nodes, node.Everywhere Holds)
  | [] => isTrue (List.forall_mem_nil _)
  | node :: rest =>
    have := decideEverywhere node
    have := decideAllEverywhere rest
    decidable_of_iff' (node.Everywhere Holds ∧ ∀ other ∈ rest, other.Everywhere Holds)
      List.forall_mem_cons

end

instance (root : Node) : Decidable (root.Everywhere Holds) := decideEverywhere Holds root

end Test

variable {text : String} {root node : Node}

/-- When children are inside the range of their parent, all nodes of a tree are inside the range
of its root. -/
theorem Contains.within_of_children (inside : root.Everywhere fun parent =>
      ∀ child ∈ parent.children,
        parent.label.start ≤ child.label.start ∧ child.label.stop ≤ parent.label.stop)
    (contains : root.Contains node) :
    root.label.start ≤ node.label.start ∧ node.label.stop ≤ root.label.stop := by
  obtain ⟨path, reached⟩ := contains
  induction path generalizing root with
  | nil =>
    have same : root = node := Option.some.inj reached
    rw [same]
    exact ⟨Nat.le_refl _, Nat.le_refl _⟩
  | cons position path ih =>
    rw [at?_cons, Option.bind_eq_some_iff] at reached
    obtain ⟨child, found, reached⟩ := reached
    obtain ⟨here, below⟩ := everywhere_iff.mp inside
    have isChild := List.mem_of_getElem? found
    have outer := here child isChild
    have inner := ih (below child isChild) reached
    exact ⟨Nat.le_trans outer.1 inner.1, Nat.le_trans inner.2 outer.2⟩

/-- All nodes of a tree are inside the range of its root. -/
theorem Contains.within (placed : root.Everywhere (PlacedIn text)) (inside : root.Contains node) :
    root.label.start ≤ node.label.start ∧ node.label.stop ≤ root.label.stop :=
  inside.within_of_children fun path node reached => (placed path node reached).children

/-- The text of a node is what the source has in its range. -/
theorem PlacedIn.text_eq (placed : node.PlacedIn text) :
    (Source.ofString text).text node.label = text.extract ⟨_, placed.starts⟩ ⟨_, placed.stops⟩ := by
  have valid := String.Pos.isValidUTF8_extract ⟨_, placed.starts⟩ ⟨_, placed.stops⟩
  rw [Source.text, Source.ofString, String.toUTF8_eq_toByteArray, String.fromUTF8?, dif_pos valid]
  rfl

end Node

end KotlinLint
