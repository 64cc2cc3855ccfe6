import KotlinLint.Proofs.Call.Correspondence
import KotlinLint.Proofs.Call.Origin
import KotlinLint.Proofs.Call.Preorder
import KotlinLint.Proofs.Call.Suffixes
import KotlinLint.Proofs.Ranges
import Mathlib.Data.List.Flatten

/-!
# Calls in source order

The preorder of the calls of a body is the order in which they start in the source, although
the calls of the arguments and those of the lambdas are kept apart and joined call expressions add
theirs to a call that was read before (`Block.preorder_ascends`). What keeps the order is that the
suffixes of a call have their arguments before their lambdas, and that a call expression which is
joined with the one it calls has no arguments. So the first call of a name in preorder is the
earliest one, and no call of this name is around it.
-/

namespace KotlinLint

namespace Node

/-- Whether a tree has a call expression. -/
def HasCalls (root : Node) : Prop := ¬ root.Everywhere (¬ ·.IsCall)

instance (root : Node) : Decidable root.HasCalls :=
  inferInstanceAs (Decidable (¬ root.Everywhere (¬ ·.IsCall)))

/-- Nodes with the named children of each call suffix in its place. -/
def spreadSuffixes (nodes : List Node) : List Node :=
  nodes.flatMap fun node => if node.kind = "call_suffix" then node.namedChildren else [node]

/-- Whether suffixes of a call have the call expressions of arguments before those of lambdas. -/
structure ArgumentsFirst (suffixes : List Node) : Prop where
  /-- Only value arguments and lambdas have call expressions. -/
  kinds : ∀ suffix ∈ suffixes, suffix.HasCalls →
    suffix.kind ∈ ["value_arguments", "lambda_literal", "annotated_lambda"]
  /-- No value arguments with call expressions come after a lambda with call expressions. -/
  order : suffixes.Pairwise fun first second =>
    first.HasCalls → second.HasCalls → first.kind ≠ "value_arguments" →
      second.kind ≠ "value_arguments"

instance (suffixes : List Node) : Decidable (ArgumentsFirst suffixes) :=
  decidable_of_iff
    ((∀ suffix ∈ suffixes, suffix.HasCalls →
        suffix.kind ∈ ["value_arguments", "lambda_literal", "annotated_lambda"]) ∧
      suffixes.Pairwise fun first second =>
        first.HasCalls → second.HasCalls → first.kind ≠ "value_arguments" →
          second.kind ≠ "value_arguments")
    ⟨fun ⟨kinds, order⟩ => ⟨kinds, order⟩, fun ⟨kinds, order⟩ => ⟨kinds, order⟩⟩

/-- What the parser promises of the order in which a node and what it has are written. -/
structure Orderly (node : Node) : Prop where
  /-- The children follow each other inside the range of the node. -/
  ranged : node.Ranged
  /-- After what is called, a call expression has arguments first. -/
  suffixes : node.IsCall → ArgumentsFirst (spreadSuffixes (node.namedChildren.drop 1))

instance (node : Node) : Decidable node.Orderly :=
  decidable_of_iff
    (node.Ranged ∧ (node.IsCall → ArgumentsFirst (spreadSuffixes (node.namedChildren.drop 1))))
    ⟨fun ⟨ranged, suffixes⟩ => ⟨ranged, suffixes⟩, fun ⟨ranged, suffixes⟩ => ⟨ranged, suffixes⟩⟩

end Node

namespace Call

open Node

/-- Whether calls are listed by where they start, and all start between two places. -/
structure StartsAscend (low high : Nat) (calls : List Call) : Prop where
  /-- No call starts before one that is listed earlier. -/
  ordered : calls.Pairwise fun earlier later => earlier.span.start ≤ later.span.start
  /-- No call starts before the first place. -/
  low : ∀ call ∈ calls, low ≤ call.span.start
  /-- No call starts after the last place. -/
  high : ∀ call ∈ calls, call.span.start ≤ high

namespace StartsAscend

variable {low middle high : Nat}

/-- No calls are in order. -/
theorem nil : StartsAscend low high [] := ⟨List.Pairwise.nil, nofun, nofun⟩

/-- Calls that are in order stay so when some are left out. -/
theorem sublist {calls fewer : List Call} (ascend : StartsAscend low high calls)
    (kept : fewer.Sublist calls) : StartsAscend low high fewer where
  ordered := ascend.ordered.sublist kept
  low call listed := ascend.low call (kept.subset listed)
  high call listed := ascend.high call (kept.subset listed)

/-- Calls that are in order between two places are so between places further apart. -/
theorem widen {first last : Nat} {calls : List Call} (ascend : StartsAscend low high calls)
    (starts : first ≤ low) (stops : high ≤ last) : StartsAscend first last calls where
  ordered := ascend.ordered
  low call listed := Nat.le_trans starts (ascend.low call listed)
  high call listed := Nat.le_trans (ascend.high call listed) stops

/-- Calls that start up to a place are in order with calls that start from there on. -/
theorem append {first second : List Call} (front : StartsAscend low middle first)
    (back : StartsAscend middle high second) (starts : low ≤ middle) (stops : middle ≤ high) :
    StartsAscend low high (first ++ second) := by
  have wideFront := front.widen (Nat.le_refl low) stops
  have wideBack := back.widen starts (Nat.le_refl high)
  constructor
  · apply List.pairwise_append.mpr
    refine ⟨front.ordered, back.ordered, ?_⟩
    intro earlier isFirst later isSecond
    have before := front.high earlier isFirst
    have after := back.low later isSecond
    omega
  · intro call listed
    rcases List.mem_append.mp listed with isFirst | isSecond
    · exact wideFront.low call isFirst
    · exact wideBack.low call isSecond
  · intro call listed
    rcases List.mem_append.mp listed with isFirst | isSecond
    · exact wideFront.high call isFirst
    · exact wideBack.high call isSecond

/-- A call that starts at the first place comes before calls that are in order. -/
theorem cons {call : Call} {rest : List Call} (ascend : StartsAscend low high rest)
    (starts : call.span.start = low) (bounded : low ≤ high) :
    StartsAscend low high (call :: rest) := by
  constructor
  · apply List.pairwise_cons.mpr
    refine ⟨?_, ascend.ordered⟩
    intro later listed
    have bound := ascend.low later listed
    omega
  · intro other listed
    rcases List.mem_cons.mp listed with rfl | isRest
    · omega
    · exact ascend.low other isRest
  · intro other listed
    rcases List.mem_cons.mp listed with rfl | isRest
    · omega
    · exact ascend.high other isRest

end StartsAscend

/-- The calls of the calls of a list are those of each. -/
theorem preorderAll_eq_flatMap (calls : List Call) :
    preorderAll calls = calls.flatMap preorder := by
  induction calls with
  | nil => rfl
  | cons call rest ih => rw [preorderAll, ih, List.flatMap_cons]

/-- Fewer calls have fewer calls at any depth. -/
theorem preorderAll_sublist {fewer calls : List Call} (kept : fewer.Sublist calls) :
    (preorderAll fewer).Sublist (preorderAll calls) := by
  rw [preorderAll_eq_flatMap, preorderAll_eq_flatMap]
  exact kept.flatMap preorder

namespace Parts

/-- Parts come one after the other when the lambdas of the first have no calls. -/
theorem preorder_append_of_lambdas {first second : Parts}
    (quiet : Block.preorderAll first.lambdas = []) :
    (first ++ second).preorder = first.preorder ++ second.preorder := by
  have joined : (first ++ second).preorder = preorderAll (first.nested ++ second.nested) ++
    Block.preorderAll (first.lambdas ++ second.lambdas) := rfl
  rw [joined, preorderAll_append, Block.preorderAll_append, preorder, preorder, quiet]
  simp only [List.append_nil, List.nil_append, List.append_assoc]

/-- Parts come one after the other when the arguments of the second have no calls. -/
theorem preorder_append_of_nested {first second : Parts}
    (quiet : preorderAll second.nested = []) :
    (first ++ second).preorder = first.preorder ++ second.preorder := by
  have joined : (first ++ second).preorder = preorderAll (first.nested ++ second.nested) ++
    Block.preorderAll (first.lambdas ++ second.lambdas) := rfl
  rw [joined, preorderAll_append, Block.preorderAll_append, preorder, preorder, quiet]
  simp only [List.append_nil, List.nil_append, List.append_assoc]

end Parts

section Suffixes

variable (source : Source)

/-- The calls of nodes are those of each. -/
theorem ofNodes_eq_flatMap (nodes : List Node) :
    ofNodes source nodes = nodes.flatMap (ofNode source) := by
  induction nodes with
  | nil => rw [ofNodes, List.flatMap_nil]
  | cons node rest ih => rw [ofNodes, ih, List.flatMap_cons]

/-- Suffixes add the same when the named children of each call suffix stand in its place. -/
theorem suffixes_spread {nodes : List Node} (named : ∀ node ∈ nodes, node.label.named) :
    suffixes source (spreadSuffixes nodes) = suffixes source nodes := by
  induction nodes with
  | nil => rfl
  | cons node rest ih =>
    have later := ih fun other listed => named other (List.mem_cons_of_mem _ listed)
    have here : node.label.named := named node List.mem_cons_self
    have first : suffixes source (if node.kind = "call_suffix" then node.namedChildren
        else [node]) = suffixes source [node] := by
      split
      case isTrue isSuffix =>
        obtain ⟨label, children⟩ := node
        have kind : label.kind = "call_suffix" := isSuffix
        have here : label.named = true := here
        rw [namedChildren, suffixes_named, suffixes, suffixes, Parts.append_empty]
        simp [here, kind]
      case isFalse => rfl
    rw [spreadSuffixes, List.flatMap_cons, suffixes_append, first, suffixes_cons source node rest,
      ← later]
    rfl

/-- A node without call expressions adds no calls. -/
theorem preorder_suffixes_eq_nil {node : Node} (quiet : ¬ node.HasCalls) :
    (suffixes source [node]).preorder = [] := by
  have plain : node.Everywhere (¬ ·.IsCall) := Decidable.not_not.mp quiet
  have never : ∀ call ∈ (suffixes source [node]).preorder, False := by
    refine forall_mem_suffixes source [node] ?_
    intro other isNode path found reached isCall
    rw [List.mem_singleton.mp isNode] at reached
    exact absurd isCall (plain path found reached)
  exact List.eq_nil_iff_forall_not_mem.mpr never

/-- The block of an annotated lambda has calls of its children only. -/
theorem preorderAll_annotatedLambda_sublist (nodes : List Node) :
    (Block.preorderAll (annotatedLambda source nodes)).Sublist
      (preorderAll (ofNodes source nodes)) := by
  induction nodes with
  | nil => rw [annotatedLambda, Block.preorderAll]; exact List.nil_sublist _
  | cons node rest ih =>
    obtain ⟨label, children⟩ := node
    rw [annotatedLambda, ofNodes, preorderAll_append]
    by_cases lambda : label.kind = "lambda_literal"
    · have plain : label.kind ≠ expressionKind := by simp [lambda, expressionKind]
      rw [if_pos lambda, ofNode, if_neg plain, Block.preorderAll, Block.preorderAll,
        Block.preorder, List.append_nil]
      exact List.sublist_append_left _ _
    · rw [if_neg lambda]
      exact ih.trans (List.sublist_append_right _ _)

/-- Value arguments add their calls before any lambda. -/
theorem suffixes_argument {node : Node}
    (argument : node.HasCalls → node.kind = "value_arguments") :
    Block.preorderAll (suffixes source [node]).lambdas = [] ∧
      (suffixes source [node]).preorder.Sublist (preorderAll (ofNode source node)) := by
  by_cases hasCalls : node.HasCalls
  · obtain ⟨label, children⟩ := node
    have kind : label.kind = "value_arguments" := argument hasCalls
    by_cases bare : label.named = false
    · rw [suffixes_token source bare]
      exact ⟨rfl, List.nil_sublist _⟩
    · have added : suffixes source [⟨label, children⟩] = ⟨ofNode source ⟨label, children⟩, []⟩ := by
        rw [suffixes, suffixes, Parts.append_empty]
        simp [bare, kind]
      rw [added, Parts.preorder, Block.preorderAll, List.append_nil]
      exact ⟨rfl, List.Sublist.refl _⟩
  · have none := preorder_suffixes_eq_nil source hasCalls
    have lambdas := (List.append_eq_nil_iff.mp none).2
    rw [none]
    exact ⟨lambdas, List.nil_sublist _⟩

/-- Lambdas add their calls after any argument. -/
theorem suffixes_lambda {node : Node}
    (lambda : node.HasCalls → node.kind ∈ ["lambda_literal", "annotated_lambda"]) :
    preorderAll (suffixes source [node]).nested = [] ∧
      (suffixes source [node]).preorder.Sublist (preorderAll (ofNode source node)) := by
  by_cases hasCalls : node.HasCalls
  · obtain ⟨label, children⟩ := node
    have kinds : label.kind ∈ ["lambda_literal", "annotated_lambda"] := lambda hasCalls
    by_cases bare : label.named = false
    · rw [suffixes_token source bare]
      exact ⟨rfl, List.nil_sublist _⟩
    · simp only [List.mem_cons, List.not_mem_nil, or_false] at kinds
      rcases kinds with kind | kind
      · have plain : label.kind ≠ expressionKind := by simp [kind, expressionKind]
        have added : suffixes source [⟨label, children⟩] =
            ⟨[], [⟨label.span, ofNodes source children⟩]⟩ := by
          rw [suffixes, suffixes, Parts.append_empty]
          simp [bare, kind]
        rw [added, ofNode, if_neg plain, Parts.preorder, preorderAll, Block.preorderAll,
          Block.preorderAll, Block.preorder, List.append_nil, List.nil_append]
        exact ⟨rfl, List.Sublist.refl _⟩
      · have plain : label.kind ≠ expressionKind := by simp [kind, expressionKind]
        have added : suffixes source [⟨label, children⟩] =
            ⟨[], annotatedLambda source children⟩ := by
          rw [suffixes, suffixes, Parts.append_empty]
          simp [bare, kind]
        rw [added, ofNode, if_neg plain, Parts.preorder, preorderAll, List.nil_append]
        exact ⟨rfl, preorderAll_annotatedLambda_sublist source children⟩
  · have none := preorder_suffixes_eq_nil source hasCalls
    have nested := (List.append_eq_nil_iff.mp none).1
    rw [none]
    exact ⟨nested, List.nil_sublist _⟩

/-- Lambdas add no calls of arguments. -/
theorem preorderAll_nested_of_lambdas {nodes : List Node}
    (lambdas : ∀ node ∈ nodes, node.HasCalls →
      node.kind ∈ ["lambda_literal", "annotated_lambda"]) :
    preorderAll (suffixes source nodes).nested = [] := by
  induction nodes with
  | nil => rw [suffixes]; rfl
  | cons node rest ih =>
    have first := (suffixes_lambda source (lambdas node List.mem_cons_self)).1
    have later := ih fun other listed => lambdas other (List.mem_cons_of_mem _ listed)
    have joined : preorderAll ((suffixes source [node]) ++ suffixes source rest).nested =
        preorderAll ((suffixes source [node]).nested ++ (suffixes source rest).nested) := rfl
    rw [suffixes_cons, joined, preorderAll_append, first, later, List.append_nil]

/-- Suffixes with their arguments first add calls in the order of the nodes. -/
theorem preorder_suffixes_sublist {nodes : List Node} (first : ArgumentsFirst nodes) :
    (suffixes source nodes).preorder.Sublist (preorderAll (ofNodes source nodes)) := by
  induction nodes with
  | nil => rw [suffixes]; exact List.nil_sublist _
  | cons node rest ih =>
    have isFirst := List.mem_cons_self (a := node) (l := rest)
    have follows := List.pairwise_cons.mp first.order
    have kinds : ∀ suffix ∈ rest, suffix.HasCalls →
        suffix.kind ∈ ["value_arguments", "lambda_literal", "annotated_lambda"] :=
      fun suffix listed => first.kinds suffix (List.mem_cons_of_mem _ listed)
    have later := ih ⟨kinds, follows.2⟩
    rw [suffixes_cons, ofNodes, preorderAll_append]
    by_cases argument : node.HasCalls → node.kind = "value_arguments"
    · obtain ⟨quiet, here⟩ := suffixes_argument source argument
      rw [Parts.preorder_append_of_lambdas quiet]
      exact here.append later
    · -- The node is a lambda with calls, so all that follow it and have calls are lambdas.
      obtain ⟨hasCalls, isLambda⟩ := Classical.not_imp.mp argument
      have kind := first.kinds node isFirst hasCalls
      have lambda : node.kind ∈ ["lambda_literal", "annotated_lambda"] :=
        (List.mem_cons.mp kind).resolve_left isLambda
      have restLambdas : ∀ suffix ∈ rest, suffix.HasCalls →
          suffix.kind ∈ ["lambda_literal", "annotated_lambda"] := by
        intro suffix listed holds
        have notArgument := follows.1 suffix listed hasCalls holds isLambda
        exact (List.mem_cons.mp (kinds suffix listed holds)).resolve_left notArgument
      have quiet := preorderAll_nested_of_lambdas source restLambdas
      have here := (suffixes_lambda source fun _ => lambda).2
      rw [Parts.preorder_append_of_nested quiet]
      exact here.append later

/-- Nodes that stand in the place of a call suffix have no other calls than the call suffix. -/
theorem ofNodes_spreadSuffixes_sublist (nodes : List Node) :
    (ofNodes source (spreadSuffixes nodes)).Sublist (ofNodes source nodes) := by
  rw [ofNodes_eq_flatMap, ofNodes_eq_flatMap, spreadSuffixes, List.flatMap_assoc]
  apply List.Sublist.flatMap_right
  intro node _
  split
  case isTrue isSuffix =>
    obtain ⟨label, children⟩ := node
    have kind : label.kind = "call_suffix" := isSuffix
    have plain : label.kind ≠ expressionKind := by simp [kind, expressionKind]
    rw [ofNode, if_neg plain, ofNodes_eq_flatMap]
    exact List.filter_sublist.flatMap (ofNode source)
  case isFalse => rw [List.flatMap_singleton]

/-- The suffixes of a call add their calls in the order of the nodes. -/
theorem preorder_suffixes_sublist_of_spread {group : List Node}
    (first : ArgumentsFirst (spreadSuffixes (group.filter (·.label.named)))) :
    (suffixes source group).preorder.Sublist (preorderAll (ofNodes source group)) := by
  have named : ∀ node ∈ group.filter (·.label.named), node.label.named :=
    fun node listed => (List.mem_filter.mp listed).2
  have fewer : (ofNodes source (group.filter (·.label.named))).Sublist (ofNodes source group) := by
    rw [ofNodes_eq_flatMap, ofNodes_eq_flatMap]
    exact List.filter_sublist.flatMap (ofNode source)
  have added := preorder_suffixes_sublist source first
  rw [suffixes_spread source named, suffixes_named] at added
  have spread := ofNodes_spreadSuffixes_sublist source (group.filter (·.label.named))
  exact added.trans (preorderAll_sublist (spread.trans fewer))

/-- The suffixes of a call without value arguments add no calls of arguments. -/
theorem preorderAll_nested_of_joined {group : List Node}
    (first : ArgumentsFirst (spreadSuffixes (group.filter (·.label.named))))
    (joined : hasValueArguments group = false) :
    preorderAll (suffixes source group).nested = [] := by
  have named : ∀ node ∈ group.filter (·.label.named), node.label.named :=
    fun node listed => (List.mem_filter.mp listed).2
  rw [← suffixes_named, ← suffixes_spread source named]
  apply preorderAll_nested_of_lambdas
  intro suffix listed hasCalls
  refine (List.mem_cons.mp (first.kinds suffix listed hasCalls)).resolve_left ?_
  intro argument
  obtain ⟨node, isNode, inside⟩ := List.mem_flatMap.mp listed
  obtain ⟨inGroup, isNamed⟩ := List.mem_filter.mp isNode
  apply hasValueArguments_eq_false_iff.mp joined node inGroup
  refine ⟨isNamed, ?_⟩
  split at inside
  case isTrue isSuffix =>
    obtain ⟨isChild, childNamed⟩ := List.mem_filter.mp inside
    exact .inr ⟨isSuffix, suffix, isChild, childNamed, argument⟩
  case isFalse =>
    rw [← List.mem_singleton.mp inside]
    exact .inl argument

mutual

/-- The calls of a node are in order inside its range. -/
theorem ofNode_ascends : ∀ node : Node, node.Everywhere Orderly →
    StartsAscend node.label.start node.label.stop (preorderAll (ofNode source node))
  | ⟨label, children⟩, orderly => by
    obtain ⟨here, below⟩ := everywhere_mk.mp orderly
    have line := here.ranged.children
    have ordered := here.ranged.ordered
    rw [ofNode]
    by_cases isCall : label.kind = expressionKind
    · have parts := ofChildren_ascends label children _ _ line ordered below (here.suffixes isCall)
      have starts : (ofChildren source label children).span.start = label.start := by
        rw [ofChildren_span]
        rfl
      rw [if_pos isCall, preorderAll, preorderAll, List.append_nil, preorder_eq]
      exact parts.cons starts ordered
    · rw [if_neg isCall]
      exact ofNodes_ascends children _ _ line ordered below

/-- The calls of nodes that follow each other are in order. -/
theorem ofNodes_ascends : ∀ (nodes : List Node) (low high : Nat), InLine low high nodes →
    low ≤ high → (∀ node ∈ nodes, node.Everywhere Orderly) →
      StartsAscend low high (preorderAll (ofNodes source nodes))
  | [], low, high, _, _, _ => by
    rw [ofNodes]
    exact .nil
  | node :: rest, low, high, line, bounded, orderly => by
    obtain ⟨here, others⟩ := List.forall_mem_cons.mp orderly
    have isFirst := List.mem_cons_self (a := node) (l := rest)
    have starts := line.low node isFirst
    have stops := line.high node isFirst
    have ordered := (everywhere_iff.mp here).1.ranged.ordered
    have first := ofNode_ascends node here
    have later := ofNodes_ascends rest _ high line.rest stops others
    rw [ofNodes, preorderAll_append]
    exact (first.widen starts (Nat.le_refl _)).append later (Nat.le_trans starts ordered) stops

/-- The calls that a call expression holds are in order when its arguments come first. -/
theorem ofChildren_ascends (label : Label) : ∀ (children : List Node) (low high : Nat),
    InLine low high children → low ≤ high → (∀ node ∈ children, node.Everywhere Orderly) →
      ArgumentsFirst (spreadSuffixes ((children.filter (·.label.named)).drop 1)) →
      StartsAscend low high (ofChildren source label children).parts.preorder
  | [], low, high, _, _, _, _ => by
    rw [ofChildren]
    exact .nil
  | ⟨calleeLabel, calleeChildren⟩ :: rest, low, high, line, bounded, orderly, first => by
    obtain ⟨calleeOrderly, others⟩ := List.forall_mem_cons.mp orderly
    have isFirst := List.mem_cons_self (a := Node.mk calleeLabel calleeChildren) (l := rest)
    have starts : low ≤ calleeLabel.start := line.low _ isFirst
    have stops : calleeLabel.stop ≤ high := line.high _ isFirst
    obtain ⟨callee, calleeBelow⟩ := everywhere_mk.mp calleeOrderly
    have ordered : calleeLabel.start ≤ calleeLabel.stop := callee.ranged.ordered
    have meets := Nat.le_trans starts ordered
    rw [ofChildren]
    rw [List.filter_cons] at first
    by_cases named : calleeLabel.named
    · rw [if_pos named, List.drop_one, List.tail_cons] at first
      have later := (ofNodes_ascends rest _ high line.rest stops others).sublist
        (preorder_suffixes_sublist_of_spread source first)
      rw [if_pos named]
      by_cases joined : calleeLabel.kind = expressionKind ∧ hasValueArguments rest = false
      · have inner := ofChildren_ascends calleeLabel calleeChildren _ _ callee.ranged.children
          ordered calleeBelow (callee.suffixes joined.1)
        have quiet := preorderAll_nested_of_joined source first joined.2
        simp only [if_pos joined]
        rw [parts_extend, Parts.preorder_append_of_nested quiet]
        exact (inner.widen starts (Nat.le_refl _)).append later meets stops
      · have inner := ofNode_ascends ⟨calleeLabel, calleeChildren⟩ calleeOrderly
        simp only [if_neg joined]
        rw [parts_extend, Parts.preorder_append_of_lambdas rfl, parts, Parts.preorder,
          Block.preorderAll, List.append_nil]
        exact (inner.widen starts (Nat.le_refl _)).append later meets stops
    · rw [if_neg named] at first
      have later := ofChildren_ascends label rest _ high line.rest stops others first
      rw [if_neg named]
      exact later.widen meets (Nat.le_refl _)

end

end Suffixes

section Search

/-- The calls of blocks are those of their outermost calls. -/
theorem preorderAll_flatMap_calls (blocks : List Block) :
    preorderAll (blocks.flatMap (·.calls)) = Block.preorderAll blocks := by
  induction blocks with
  | nil => rfl
  | cons block rest ih =>
    obtain ⟨span, calls⟩ := block
    rw [List.flatMap_cons, preorderAll_append, ih, Block.preorderAll, Block.preorder]

/-- A call comes in preorder before the calls that it holds. -/
theorem preorder_eq_cons_held (call : Call) : call.preorder = call :: preorderAll call.held := by
  rw [preorder_eq, held, preorderAll_append, preorderAll_flatMap_calls]
  rfl

/-- A search that goes on below a call goes through the calls that it holds. -/
theorem find?_of_callee_ne {name : String} {call : Call} (other : call.callee ≠ name) :
    call.find? name = findAny? name call.held := by
  rw [find?_eq_preorder_find?, findAny?_eq_preorderAll_find?, preorder_eq_cons_held,
    List.find?_cons_of_neg (by simpa using other)]

mutual

/-- What holds of a call when it holds of all that the call holds is true of every call. -/
theorem forall_of_held {Holds : Call → Prop}
    (step : ∀ call, (∀ inner ∈ held call, Holds inner) → Holds call) : ∀ call, Holds call
  | ⟨callee, span, nested, lambdas⟩ => by
    apply step
    intro inner listed
    rcases List.mem_append.mp listed with isNested | inLambda
    · exact forall_mem_of_held step nested inner isNested
    · exact forall_mem_calls_of_held step lambdas inner inLambda

/-- What holds of a call when it holds of all that the call holds is true of the calls of a
list. -/
theorem forall_mem_of_held {Holds : Call → Prop}
    (step : ∀ call, (∀ inner ∈ held call, Holds inner) → Holds call) :
    ∀ calls : List Call, ∀ call ∈ calls, Holds call
  | [], _, listed => by cases listed
  | first :: rest, call, listed => by
    rcases List.mem_cons.mp listed with isFirst | later
    · rw [isFirst]
      exact forall_of_held step first
    · exact forall_mem_of_held step rest call later

/-- What holds of a call when it holds of all that the call holds is true of the outermost calls of
blocks. -/
theorem forall_mem_calls_of_held {Holds : Call → Prop}
    (step : ∀ call, (∀ inner ∈ held call, Holds inner) → Holds call) :
    ∀ blocks : List Block, ∀ call ∈ blocks.flatMap (·.calls), Holds call
  | [], _, listed => by cases listed
  | ⟨_, calls⟩ :: rest, call, listed => by
    rw [List.flatMap_cons] at listed
    rcases List.mem_append.mp listed with here | later
    · exact forall_mem_of_held step calls call here
    · exact forall_mem_calls_of_held step rest call later

end

/-- Whether a path from a call leads to a call and to none of a name on the way. -/
def IsOutermostBelow (name : String) (start : Call) (path : List Nat) (call : Call) : Prop :=
  Path.descend? held start path = some call ∧
    ∀ outer around, Path.Inside path outer → Path.descend? held start outer = some around →
      around.callee ≠ name

/-- Whether a path from a list of calls leads to a call and to none of a name on the way. -/
def IsOutermostAmong (name : String) (calls : List Call) (path : List Nat) (call : Call) : Prop :=
  Path.follow? held calls path = some call ∧
    ∀ outer around, Path.Inside path outer → Path.follow? held calls outer = some around →
      around.callee ≠ name

/-- What a search in a list of calls finds is at a place without a call of the name around it,
when this is so of the searches from each call. -/
theorem exists_outermost_of_findAny? {name : String} {calls : List Call} {found : Call}
    (each : ∀ call ∈ calls, ∀ found, call.find? name = some found →
      ∃ path, IsOutermostBelow name call path found)
    (finds : findAny? name calls = some found) :
    ∃ path, IsOutermostAmong name calls path found := by
  induction calls with
  | nil => cases finds
  | cons call rest ih =>
    obtain ⟨here, others⟩ := List.forall_mem_cons.mp each
    rw [findAny?] at finds
    cases first : call.find? name with
    | some hit =>
      rw [first, Option.some_or] at finds
      obtain ⟨path, leads, free⟩ := here hit first
      refine ⟨0 :: path, ?_, ?_⟩
      · rw [← finds]
        exact leads
      · intro outer around inside reached
        match outer with
        | [] => cases reached
        | position :: path =>
          obtain ⟨rfl, deeper⟩ := Path.inside_cons_iff.mp inside
          exact free path around deeper reached
    | none =>
      rw [first, Option.none_or] at finds
      obtain ⟨path, leads, free⟩ := ih others finds
      refine ⟨Path.shift path, ?_, ?_⟩
      · rw [Path.follow?_shift]
        exact leads
      · intro outer around inside reached
        match path, outer with
        | [], _ => cases leads
        | _, [] => cases reached
        | position :: path, other :: outer =>
          obtain ⟨rfl, deeper⟩ := Path.inside_cons_iff.mp inside
          exact free (position :: outer) around (Path.inside_cons_iff.mpr ⟨rfl, deeper⟩) reached

/-- What a search finds is at a place without a call of the name around it. -/
theorem exists_outermost_of_find? (name : String) : ∀ call found : Call,
    call.find? name = some found → ∃ path, IsOutermostBelow name call path found := by
  apply forall_of_held
  intro call below found finds
  by_cases named : call.callee = name
  · have same : call = found := by
      rw [find?_eq_preorder_find?, preorder_eq, List.find?_cons_of_pos (by simpa using named)]
        at finds
      exact Option.some.inj finds
    refine ⟨[], congrArg some same, ?_⟩
    intro outer around inside
    exact absurd inside (Path.not_nil_inside outer)
  · rw [find?_of_callee_ne named] at finds
    obtain ⟨path, leads, free⟩ := exists_outermost_of_findAny? below finds
    match path with
    | [] => cases leads
    | position :: path =>
      refine ⟨position :: path, leads, ?_⟩
      intro outer around inside reached
      match outer with
      | [] =>
        have same : call = around := Option.some.inj reached
        rw [← same]
        exact named
      | other :: outer => exact free (other :: outer) around inside reached

/-- The first call of a name in a list that is in order starts before all others of the name. -/
theorem le_start_of_find? {name : String} {calls : List Call} {found : Call}
    (ordered : calls.Pairwise fun earlier later => earlier.span.start ≤ later.span.start)
    (finds : calls.find? (·.callee = name) = some found) :
    ∀ other ∈ calls, other.callee = name → found.span.start ≤ other.span.start := by
  obtain ⟨_, before, after, split, skipped⟩ := List.find?_eq_some_iff_append.mp finds
  intro other listed named
  rw [split] at ordered listed
  have follows := (List.pairwise_append.mp ordered).2.1
  rcases List.mem_append.mp listed with isBefore | fromHere
  · have differs := skipped other isBefore
    simp [named] at differs
  · rcases List.mem_cons.mp fromHere with rfl | isAfter
    · exact Nat.le_refl _
    · exact (List.pairwise_cons.mp follows).1 other isAfter

end Search

end Call

namespace Block

/-- Whether the call at a place of a block is the earliest one of a name. -/
structure IsEarliest (block : Block) (name : String) (place : List Nat) (call : Call) : Prop where
  /-- The call has the name. -/
  named : call.callee = name
  /-- No call of the name, at any depth, starts before it. -/
  least : ∀ other ∈ block.preorder, other.callee = name → call.span.start ≤ other.span.start
  /-- The place leads to the call, and no call around it has the name. -/
  outermost : Call.IsOutermostAmong name block.calls place call

/-- The calls of a body come in preorder as they start in the source. So a search for a name that
some call of the body has answers the earliest call of this name, which no other call of the name
is around. -/
theorem preorder_ascends (source : Source) {body : Node} (orderly : body.Everywhere Node.Orderly) :
    (ofNode source body).preorder.Pairwise
      (fun earlier later => earlier.span.start ≤ later.span.start) ∧
    ∀ name, (∃ call ∈ (ofNode source body).preorder, call.callee = name) →
      ∃ place call, (ofNode source body).find? name = some call ∧
        (ofNode source body).IsEarliest name place call := by
  obtain ⟨here, below⟩ := Node.everywhere_iff.mp orderly
  have ascends : Call.StartsAscend body.label.start body.label.stop (ofNode source body).preorder :=
    Call.ofNodes_ascends source body.children _ _ here.ranged.children here.ranged.ordered below
  refine ⟨ascends.ordered, ?_⟩
  intro name ⟨call, listed, named⟩
  have isSome : ((ofNode source body).find? name).isSome := by
    rw [find?_eq_preorder_find?, List.find?_isSome]
    exact ⟨call, listed, decide_eq_true named⟩
  obtain ⟨first, finds⟩ := Option.isSome_iff_exists.mp isSome
  have search : Call.findAny? name (ofNode source body).calls = some first := finds
  obtain ⟨place, outermost⟩ := Call.exists_outermost_of_findAny?
    (fun other _ => Call.exists_outermost_of_find? name other) search
  have inPreorder := finds
  rw [find?_eq_preorder_find?] at inPreorder
  have isNamed := List.find?_some inPreorder
  exact ⟨place, first, finds, of_decide_eq_true isNamed,
    Call.le_start_of_find? ascends.ordered inPreorder, outermost⟩

/-- The body written by `{ a(g()) { g() } }`, in which two call expressions are one call. -/
def repeatedBody : Node :=
  nodeOf "block" true 0 18
    [nodeOf "\x7b" false 0 1 [],
      nodeOf "call_expression" true 2 16
        [nodeOf "call_expression" true 2 8
          [nodeOf "identifier" true 2 3 [],
            nodeOf "value_arguments" true 3 8
              [nodeOf "call_expression" true 4 7
                [nodeOf "identifier" true 4 5 [], nodeOf "value_arguments" true 5 7 []]]],
          nodeOf "annotated_lambda" true 9 16
            [nodeOf "lambda_literal" true 9 16
              [nodeOf "call_expression" true 11 14
                [nodeOf "identifier" true 11 12 [], nodeOf "value_arguments" true 12 14 []]]]],
      nodeOf "\x7d" false 17 18 []]

/-- The text of the body. -/
def repeatedSource : Source := .ofString "\x7b a(g()) \x7b g() \x7d \x7d"

/-- Of the two calls of one name in the body, one in the argument and one in the lambda, the search
answers the one that is written first. -/
theorem repeatedBody_earliest : repeatedBody.Everywhere Node.Orderly ∧
    ((ofNode repeatedSource repeatedBody).preorder.map
      fun call => (call.callee, call.span.start)) = [("a", 2), ("g", 4), ("g", 11)] ∧
    ∃ place call, (ofNode repeatedSource repeatedBody).find? "g" = some call ∧
      (ofNode repeatedSource repeatedBody).IsEarliest "g" place call := by
  have orderly : repeatedBody.Everywhere Node.Orderly := by decide +kernel
  have calls : ((ofNode repeatedSource repeatedBody).preorder.map
      fun call => (call.callee, call.span.start)) = [("a", 2), ("g", 4), ("g", 11)] := by
    decide +kernel
  have called : ∃ call ∈ (ofNode repeatedSource repeatedBody).preorder, call.callee = "g" := by
    decide +kernel
  exact ⟨orderly, calls, (preorder_ascends _ orderly).2 "g" called⟩

end Block

end KotlinLint
