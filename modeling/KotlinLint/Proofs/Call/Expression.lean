import KotlinLint.Call.OfTree
import KotlinLint.Proofs.Nesting

/-!
# Call expressions of a syntax tree

A call expression that calls another one without giving it value arguments absorbs it: the two
are one call for the reader. All other call expressions are calls of their own. The calls of
their own below a node make a nesting (`Node.ownCalls`), and the nesting of a node is that of
its first child beside that of the others (`ownCalls_cons_own`, `ownCalls_cons_joined`).
-/

namespace KotlinLint

namespace Node

/-- The node that a path from a node leads to. -/
def at? (root : Node) (path : List Nat) : Option Node := Path.descend? children root path

/-- A first step leads to a child. -/
theorem at?_cons (root : Node) (position : Nat) (path : List Nat) :
    root.at? (position :: path) = root.children[position]?.bind (·.at? path) := rfl

/-- Whether all nodes of a tree satisfy a condition. -/
def Everywhere (Holds : Node → Prop) (root : Node) : Prop :=
  ∀ path node, root.at? path = some node → Holds node

/-- A condition holds everywhere when it holds at the root and everywhere in the children. -/
theorem everywhere_iff {Holds : Node → Prop} {root : Node} :
    root.Everywhere Holds ↔ Holds root ∧ ∀ child ∈ root.children, child.Everywhere Holds := by
  constructor
  · intro everywhere
    refine ⟨everywhere [] root rfl, fun child member path node reached => ?_⟩
    obtain ⟨position, found⟩ := List.mem_iff_getElem?.mp member
    apply everywhere (position :: path) node
    rw [at?_cons, found]
    exact reached
  · intro parts path node reached
    cases path with
    | nil =>
      have same : root = node := Option.some.inj reached
      rw [← same]
      exact parts.1
    | cons position path =>
      rw [at?_cons, Option.bind_eq_some_iff] at reached
      obtain ⟨child, found, reached⟩ := reached
      exact parts.2 child (List.mem_of_getElem? found) path node reached

/-- The children are given, so the condition is tested at the root and in each of them. -/
theorem everywhere_mk {Holds : Node → Prop} {label : Label} {children : List Node} :
    Everywhere Holds ⟨label, children⟩ ↔
      Holds ⟨label, children⟩ ∧ ∀ child ∈ children, child.Everywhere Holds := everywhere_iff

/-- Whether a node is a call expression. -/
def IsCall (node : Node) : Prop := node.kind = "call_expression"

instance (node : Node) : Decidable node.IsCall :=
  inferInstanceAs (Decidable (node.kind = "call_expression"))

/-- Whether a node is a list of value arguments or a call suffix with one. -/
def GivesArguments (node : Node) : Prop :=
  node.label.named ∧ (node.kind = "value_arguments" ∨ node.kind = "call_suffix" ∧
    ∃ child ∈ node.children, child.label.named ∧ child.kind = "value_arguments")

/-- Whether a call expression absorbs the child at a position: the child is the first named one
and none of the named ones after it gives value arguments. -/
def Absorbs (parent : Node) (position : Nat) : Prop :=
  parent.IsCall ∧ (∀ node ∈ parent.children.take position, node.label.named = false) ∧
    (∃ callee, parent.children[position]? = some callee ∧ callee.label.named) ∧
    ∀ suffix ∈ parent.children.drop (position + 1), ¬ suffix.GivesArguments

/-- Whether a path from a node leads to a call expression that its parent does not absorb. -/
def OwnCall (root : Node) (path : List Nat) (call : Node) : Prop :=
  root.at? path = some call ∧ call.IsCall ∧ ∃ above position parent,
    path = above ++ [position] ∧ root.at? above = some parent ∧ ¬ parent.Absorbs position

/-- No path of no steps leads to a call of its own. -/
theorem not_ownCall_nil (root call : Node) : ¬ root.OwnCall [] call := by
  intro own
  obtain ⟨_, _, above, position, _, path, _⟩ := own
  exact List.cons_ne_nil _ _ (List.append_eq_nil_iff.mp path.symm).2

/-- A child is a call of its own when it is a call expression that the node does not absorb. -/
theorem ownCall_single_iff {root call : Node} {position : Nat} :
    root.OwnCall [position] call ↔
      root.children[position]? = some call ∧ call.IsCall ∧ ¬ root.Absorbs position := by
  constructor
  · intro below
    obtain ⟨reached, isCall, above, last, parent, path, found, own⟩ := below
    have steps : [] ++ [position] = above ++ [last] := path
    have ends := List.append_inj' steps rfl
    have positions : position = last := List.head_eq_of_cons_eq ends.2
    rw [← ends.1] at found
    rw [← positions, ← Option.some.inj found] at own
    refine ⟨?_, isCall, own⟩
    simpa [at?_cons, at?, Path.descend?] using reached
  · intro child
    obtain ⟨found, isCall, own⟩ := child
    refine ⟨?_, isCall, [], position, root, rfl, rfl, own⟩
    simp [found, at?, Path.descend?]

/-- Below a child the calls of their own are those of the child. -/
theorem ownCall_cons_iff {root call : Node} {position : Nat} {path : List Nat}
    (further : path ≠ []) : root.OwnCall (position :: path) call ↔
      ∃ child, root.children[position]? = some child ∧ child.OwnCall path call := by
  constructor
  · intro below
    obtain ⟨reached, isCall, above, last, parent, steps, found, own⟩ := below
    rw [at?_cons, Option.bind_eq_some_iff] at reached
    obtain ⟨child, here, reached⟩ := reached
    cases above with
    | nil => exact absurd (List.cons.inj steps).2 further
    | cons first above =>
      obtain ⟨rfl, rfl⟩ := List.cons.inj steps
      rw [at?_cons, here] at found
      exact ⟨child, here, reached, isCall, above, last, parent, rfl, found, own⟩
  · intro below
    obtain ⟨child, here, reached, isCall, above, last, parent, rfl, found, own⟩ := below
    refine ⟨?_, isCall, position :: above, last, parent, rfl, ?_, own⟩
    · rw [at?_cons, here]
      exact reached
    · rw [at?_cons, here]
      exact found

/-- The span of the node that a path leads to. -/
def spanAt (root : Node) (path : List Nat) : Span := ((root.at? path).map span).getD {}

/-- The calls of their own strictly below a node. -/
def ownCalls (root : Node) : Nesting :=
  .ofPaths (fun path => ∃ call, root.OwnCall path call) root.spanAt

/-- Below a node without children there are no calls. -/
theorem ownCalls_nil (label : Label) : (ownCalls ⟨label, []⟩).Alike .empty := by
  apply Nesting.ofPaths_empty
  intro path below
  obtain ⟨call, own⟩ := below
  cases path with
  | nil => exact not_ownCall_nil _ call own
  | cons position path =>
    have reached := own.1
    rw [at?_cons] at reached
    cases reached

section Cons

variable {label other : Label} {first : Node} {rest : List Node}

/-- When the node absorbs the same of its later children as another node, the calls below them
are those of the other node. -/
theorem ownCalls_shift (same : ∀ position,
      Absorbs ⟨label, first :: rest⟩ (position + 1) ↔ Absorbs ⟨other, rest⟩ position) :
    (Nesting.ofPaths
      (fun path => path ≠ [] ∧ ∃ call, OwnCall ⟨label, first :: rest⟩ (Path.shift path) call)
      fun path => spanAt ⟨label, first :: rest⟩ (Path.shift path)).Alike
      (ownCalls ⟨other, rest⟩) := by
  apply Nesting.ofPaths_congr
  · intro path
    match path with
    | [] => simp [not_ownCall_nil]
    | [position] => simp [Path.shift, ownCall_single_iff, same]
    | position :: next :: path => simp [Path.shift, ownCall_cons_iff]
  · intro path below
    cases path with
    | nil => exact absurd rfl below.1
    | cons position path => rfl

/-- A first child that is a call of its own holds the calls below it. -/
theorem ownCalls_cons_own (isCall : first.IsCall) (own : ¬ Absorbs ⟨label, first :: rest⟩ 0)
    (same : ∀ position,
      Absorbs ⟨label, first :: rest⟩ (position + 1) ↔ Absorbs ⟨other, rest⟩ position) :
    (ownCalls ⟨label, first :: rest⟩).Alike
      ((first.ownCalls.under first.span).beside (ownCalls ⟨other, rest⟩)) := by
  have start : ∃ call, OwnCall ⟨label, first :: rest⟩ [0] call :=
    ⟨first, ownCall_single_iff.mpr ⟨rfl, isCall, own⟩⟩
  have below : (Nesting.ofPaths
      (fun path => path ≠ [] ∧ ∃ call, OwnCall ⟨label, first :: rest⟩ (0 :: path) call)
      fun path => spanAt ⟨label, first :: rest⟩ (0 :: path)).Alike first.ownCalls := by
    apply Nesting.ofPaths_congr
    · intro path
      cases path with
      | nil => simp [not_ownCall_nil]
      | cons position path => simp [ownCall_cons_iff]
    · exact fun path _ => rfl
  exact (Nesting.ofPaths_divide fun ⟨call, reached⟩ => not_ownCall_nil _ call reached).trans
    (((Nesting.ofPaths_start start).trans (below.under first.span)).beside (ownCalls_shift same))

/-- A first child that is no call of its own adds the calls below it. -/
theorem ownCalls_cons_joined (joined : first.IsCall → Absorbs ⟨label, first :: rest⟩ 0)
    (same : ∀ position,
      Absorbs ⟨label, first :: rest⟩ (position + 1) ↔ Absorbs ⟨other, rest⟩ position) :
    (ownCalls ⟨label, first :: rest⟩).Alike
      (first.ownCalls.beside (ownCalls ⟨other, rest⟩)) := by
  have below : (Nesting.ofPaths
      (fun path => ∃ call, OwnCall ⟨label, first :: rest⟩ (0 :: path) call)
      fun path => spanAt ⟨label, first :: rest⟩ (0 :: path)).Alike first.ownCalls := by
    apply Nesting.ofPaths_congr
    · intro path
      cases path with
      | nil =>
        have absorbed : ∀ call, ¬ OwnCall ⟨label, first :: rest⟩ [0] call := by
          intro call reached
          obtain ⟨found, isCall, own⟩ := ownCall_single_iff.mp reached
          have same : first = call := Option.some.inj found
          rw [← same] at isCall
          exact own (joined isCall)
        simp [not_ownCall_nil, absorbed]
      | cons position path => simp [ownCall_cons_iff]
    · exact fun path _ => rfl
  exact (Nesting.ofPaths_divide fun ⟨call, reached⟩ => not_ownCall_nil _ call reached).trans
    (below.beside (ownCalls_shift same))

end Cons

/-- The calls of their own below a node, inside the node when it is a call expression. -/
def withOwnCalls (node : Node) : Nesting :=
  if node.IsCall then node.ownCalls.under node.span else node.ownCalls

/-- A call expression has the calls below it inside. -/
theorem withOwnCalls_of_call {label : Label} {children : List Node}
    (isCall : label.kind = Call.expressionKind) :
    withOwnCalls ⟨label, children⟩ = (ownCalls ⟨label, children⟩).under label.span :=
  if_pos isCall

/-- A node that is no call expression only passes on the calls below it. -/
theorem withOwnCalls_of_plain {label : Label} {children : List Node}
    (plain : label.kind ≠ Call.expressionKind) :
    withOwnCalls ⟨label, children⟩ = ownCalls ⟨label, children⟩ := if_neg plain

/-- A node that is no call expression absorbs none of its children. -/
theorem not_absorbs {label : Label} {children : List Node}
    (plain : label.kind ≠ Call.expressionKind) (position : Nat) :
    ¬ Absorbs ⟨label, children⟩ position := fun absorbs => plain absorbs.1

/-- A call expression absorbs nothing after its first named child. -/
theorem not_absorbs_later {label : Label} {callee : Node} {rest : List Node}
    (named : callee.label.named) (position : Nat) :
    ¬ Absorbs ⟨label, callee :: rest⟩ (position + 1) := by
  intro absorbs
  have unnamed := absorbs.2.1 callee List.mem_cons_self
  rw [named] at unnamed
  contradiction

/-- When the first child is not absorbed its calls stand beside those of the others. -/
theorem ownCalls_cons_plain {label other : Label} {first : Node} {rest : List Node}
    (own : first.IsCall → ¬ Absorbs ⟨label, first :: rest⟩ 0)
    (same : ∀ position,
      Absorbs ⟨label, first :: rest⟩ (position + 1) ↔ Absorbs ⟨other, rest⟩ position) :
    (ownCalls ⟨label, first :: rest⟩).Alike
      (first.withOwnCalls.beside (ownCalls ⟨other, rest⟩)) := by
  by_cases isCall : first.IsCall
  · rw [withOwnCalls, if_pos isCall]
    exact ownCalls_cons_own isCall (own isCall) same
  · rw [withOwnCalls, if_neg isCall]
    exact ownCalls_cons_joined (fun h => absurd h isCall) same

end Node

end KotlinLint
