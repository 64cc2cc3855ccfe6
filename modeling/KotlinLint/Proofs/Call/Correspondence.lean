import KotlinLint.Proofs.Call.Expression
import Mathlib.Data.List.Perm.Basic

/-!
# Calls and call expressions

The calls of a body correspond one to one to the call expressions of its node that are calls of
their own: each has the span of its call expression, and one is below another exactly when its
call expression is inside that of the other (`Block.CorrespondsTo`). Joining two call
expressions mixes the calls that they hold, so the correspondence does not keep the order of
calls side by side.
-/

namespace KotlinLint

namespace Call

/-- The calls directly below a call: those of its receiver and arguments and those of its
lambdas. -/
def held (call : Call) : List Call := call.nested ++ call.lambdas.flatMap (·.calls)

/-- The calls that suffixes add directly below a call. -/
def Parts.held (parts : Parts) : List Call := parts.nested ++ parts.lambdas.flatMap (·.calls)

/-- The calls of a list of calls and those below them. -/
def nesting (calls : List Call) : Nesting :=
  .ofPaths (fun path => (Path.follow? held calls path).isSome)
    fun path => ((Path.follow? held calls path).map span).getD {}

/-- No calls make no places. -/
theorem nesting_nil : (nesting []).Alike .empty := by
  apply Nesting.ofPaths_empty
  intro path found
  cases path with
  | nil => cases found
  | cons position path => cases found

/-- A call stands before the rest with the calls below it inside. -/
theorem nesting_cons (call : Call) (rest : List Call) :
    (nesting (call :: rest)).Alike
      (((nesting call.held).under call.span).beside (nesting rest)) := by
  have below : (Nesting.ofPaths
      (fun path => path ≠ [] ∧ (Path.follow? held (call :: rest) (0 :: path)).isSome)
      fun path => ((Path.follow? held (call :: rest) (0 :: path)).map span).getD {}).Alike
      (nesting call.held) := by
    apply Nesting.ofPaths_congr
    · intro path
      cases path with
      | nil => simp [Path.follow?]
      | cons position path => simp [Path.follow?_cons_zero]
    · intro path started
      cases path with
      | nil => exact absurd rfl started.1
      | cons position path => rfl
  have later : (Nesting.ofPaths
      (fun path => path ≠ [] ∧ (Path.follow? held (call :: rest) (Path.shift path)).isSome)
      fun path => ((Path.follow? held (call :: rest) (Path.shift path)).map span).getD {}).Alike
      (nesting rest) := by
    apply Nesting.ofPaths_congr
    · intro path
      cases path with
      | nil => simp [Path.follow?]
      | cons position path => simp [Path.follow?_shift]
    · intro path started
      cases path with
      | nil => exact absurd rfl started.1
      | cons position path => rfl
  exact (Nesting.ofPaths_divide (by simp [Path.follow?])).trans
    (((Nesting.ofPaths_start (by simp [Path.follow?, Path.descend?])).trans
      (below.under call.span)).beside later)

/-- One call is a place with the calls below it inside. -/
theorem nesting_single (call : Call) :
    (nesting [call]).Alike ((nesting call.held).under call.span) :=
  (nesting_cons call []).trans (((Nesting.Alike.refl _).beside nesting_nil).trans
    (Nesting.beside_empty _))

/-- The order of calls side by side does not matter. -/
theorem nesting_perm {first second : List Call} (perm : first.Perm second) :
    (nesting first).Alike (nesting second) := by
  induction perm with
  | nil => exact .refl _
  | cons call _ ih =>
    exact (nesting_cons call _).trans (((Nesting.Alike.refl _).beside ih).trans
      (nesting_cons call _).symm)
  | swap left right rest =>
    have unfolded (left right : Call) : (nesting (left :: right :: rest)).Alike
        ((((nesting left.held).under left.span).beside
          ((nesting right.held).under right.span)).beside (nesting rest)) :=
      (nesting_cons left _).trans (((Nesting.Alike.refl _).beside (nesting_cons right rest)).trans
        (Nesting.beside_assoc _ _ _).symm)
    exact (unfolded right left).trans (((Nesting.beside_comm _ _).beside (.refl _)).trans
      (unfolded left right).symm)
  | trans _ _ left right => exact left.trans right

/-- Calls one after the other stand side by side. -/
theorem nesting_append (first second : List Call) :
    (nesting (first ++ second)).Alike ((nesting first).beside (nesting second)) := by
  induction first with
  | nil => exact ((nesting_nil.beside (.refl _)).trans (Nesting.empty_beside _)).symm
  | cons call first ih =>
    have grouped := (Nesting.Alike.refl ((nesting call.held).under call.span)).beside ih
    exact (nesting_cons call _).trans (grouped.trans ((Nesting.beside_assoc _ _ _).symm.trans
      ((nesting_cons call first).symm.beside (.refl _))))

/-- The calls of two lists of calls with blocks, taken together and taken one after the other. -/
theorem held_perm (nested added : List Call) (lambdas more : List Block) :
    ((nested ++ added) ++ (lambdas ++ more).flatMap (·.calls)).Perm
      ((nested ++ lambdas.flatMap (·.calls)) ++ (added ++ more.flatMap (·.calls))) := by
  rw [List.flatMap_append, List.append_assoc, List.append_assoc]
  apply List.Perm.append_left
  rw [← List.append_assoc, ← List.append_assoc]
  exact List.perm_append_comm.append_right _

/-- A call with more parts holds what it held beside what the parts add. -/
theorem nesting_extend (call : Call) (span : Span) (parts : Parts) :
    (nesting (call.extend span parts).held).Alike
      ((nesting call.held).beside (nesting parts.held)) :=
  (nesting_perm (held_perm _ _ _ _)).trans (nesting_append _ _)

/-- Parts one after the other add calls side by side. -/
theorem nesting_parts_append (first second : Parts) :
    (nesting (first ++ second).held).Alike
      ((nesting first.held).beside (nesting second.held)) :=
  (nesting_perm (held_perm _ _ _ _)).trans (nesting_append _ _)

/-- A call has the range of its call expression. -/
theorem ofChildren_span (source : Source) (label : Label) (children : List Node) :
    (ofChildren source label children).span = label.span := by
  induction children with
  | nil => simp [ofChildren]
  | cons callee rest ih =>
    obtain ⟨calleeLabel, calleeChildren⟩ := callee
    rw [ofChildren]
    split
    · rfl
    · exact ih

end Call

/-- A call expression has the range of the call that it is read as. -/
theorem Node.IsCall.span_eq {source : Source} {expression : Node} {call : Call}
    (isCall : expression.IsCall) (reads : Call.ofNode source expression = [call]) :
    call.span = expression.span := by
  obtain ⟨label, children⟩ := expression
  have kind : label.kind = Call.expressionKind := isCall
  rw [Call.ofNode, if_pos kind] at reads
  rw [← List.singleton_inj.mp reads]
  exact Call.ofChildren_span source label children

/-- What the parser promises of a node: a bare token has no children and is no call expression,
and an annotated lambda has call expressions only in its first lambda. -/
structure Node.Tidy (node : Node) : Prop where
  token : node.label.named = false → node.children = [] ∧ ¬ node.IsCall
  lambda : node.kind = "annotated_lambda" →
    ∀ child ∈ node.children.eraseP (·.kind = "lambda_literal"), child.Everywhere (¬ ·.IsCall)

namespace Node

/-- Both promises about a node as one condition. -/
theorem tidy_iff {node : Node} : node.Tidy ↔
    (node.label.named = false → node.children = [] ∧ ¬ node.IsCall) ∧
      (node.kind = "annotated_lambda" → ∀ child ∈ node.children.eraseP (·.kind = "lambda_literal"),
        child.Everywhere (¬ ·.IsCall)) :=
  ⟨fun ⟨token, lambda⟩ => ⟨token, lambda⟩, fun ⟨token, lambda⟩ => ⟨token, lambda⟩⟩

/-- Below a node without call expressions there are no calls. -/
theorem ownCalls_alike_empty {node : Node}
    (free : ∀ child ∈ node.children, child.Everywhere (¬ ·.IsCall)) :
    node.ownCalls.Alike .empty := by
  apply Nesting.ofPaths_empty
  intro path below
  obtain ⟨call, own⟩ := below
  cases path with
  | nil => exact not_ownCall_nil _ _ own
  | cons position path =>
    obtain ⟨reached, isCall, _⟩ := own
    rw [at?_cons, Option.bind_eq_some_iff] at reached
    obtain ⟨child, found, reached⟩ := reached
    exact free child (List.mem_of_getElem? found) path call reached isCall

/-- A node without call expressions adds no calls. -/
theorem withOwnCalls_alike_empty {node : Node} (free : node.Everywhere (¬ ·.IsCall)) :
    node.withOwnCalls.Alike .empty := by
  obtain ⟨plain, below⟩ := everywhere_iff.mp free
  rw [withOwnCalls, if_neg plain]
  exact ownCalls_alike_empty below

/-- Suffixes give a call no value arguments when none of them does. -/
theorem hasValueArguments_eq_false_iff {suffixes : List Node} :
    Call.hasValueArguments suffixes = false ↔ ∀ suffix ∈ suffixes, ¬ suffix.GivesArguments := by
  simp [Call.hasValueArguments, GivesArguments]

/-- A call expression absorbs its first named child when the suffixes give no value
arguments. -/
theorem absorbs_callee_iff {label : Label} {callee : Node} {rest : List Node}
    (isCall : label.kind = Call.expressionKind) (named : callee.label.named) :
    Absorbs ⟨label, callee :: rest⟩ 0 ↔ Call.hasValueArguments rest = false := by
  rw [hasValueArguments_eq_false_iff]
  constructor
  · exact fun ⟨_, _, _, plain⟩ => plain
  · exact fun plain => ⟨isCall, by simp, ⟨callee, rfl, named⟩, plain⟩

/-- A bare token before the callee changes nothing. -/
theorem absorbs_token_iff {label : Label} {token : Node} {rest : List Node}
    (bare : token.label.named = false) (position : Nat) :
    Absorbs ⟨label, token :: rest⟩ (position + 1) ↔ Absorbs ⟨label, rest⟩ position := by
  simp [Absorbs, IsCall, kind, bare]

end Node

namespace Call

open Node

/-- The label of a node that is no call expression. -/
def plainLabel (label : Label) : Label := { label with kind := "" }

/-- A plain label is not that of a call expression. -/
theorem plainLabel_kind_ne (label : Label) : (plainLabel label).kind ≠ expressionKind := by
  simp [plainLabel, expressionKind]

/-- Below a node that is no call expression the calls of the children stand side by side. -/
theorem ownCalls_cons {label : Label} (plain : label.kind ≠ expressionKind) (node : Node)
    (rest : List Node) : (ownCalls ⟨label, node :: rest⟩).Alike
      (node.withOwnCalls.beside (ownCalls ⟨label, rest⟩)) :=
  ownCalls_cons_plain (fun _ => not_absorbs plain 0) fun _ =>
    iff_of_false (not_absorbs plain _) (not_absorbs plain _)

variable (source : Source)

mutual

/-- The calls of a node correspond to its calls of their own. -/
theorem ofNode_alike : ∀ node : Node, node.Everywhere Tidy →
    (nesting (ofNode source node)).Alike node.withOwnCalls
  | ⟨label, children⟩, tidy => by
    have below := (everywhere_iff.mp tidy).2
    by_cases isCall : label.kind = expressionKind
    · have held := ofChildren_alike children below label isCall
      have single := nesting_single (ofChildren source label children)
      rw [ofChildren_span] at single
      rw [ofNode, if_pos isCall, withOwnCalls_of_call isCall]
      exact single.trans (held.under label.span)
    · rw [ofNode, if_neg isCall, withOwnCalls_of_plain isCall]
      exact ofNodes_alike children below label isCall

/-- The calls of a list of nodes correspond to the calls below a node with these children. -/
theorem ofNodes_alike : ∀ nodes : List Node, (∀ node ∈ nodes, node.Everywhere Tidy) →
    ∀ label : Label, label.kind ≠ expressionKind →
      (nesting (ofNodes source nodes)).Alike (ownCalls ⟨label, nodes⟩)
  | [], _, label, _ => by
    rw [ofNodes]
    exact nesting_nil.trans (ownCalls_nil label).symm
  | node :: rest, tidy, label, plain => by
    have first := ofNode_alike node (tidy node (by simp))
    have later := ofNodes_alike rest (fun node member => tidy node (by simp [member])) label plain
    rw [ofNodes]
    exact (nesting_append _ _).trans ((first.beside later).trans
      (ownCalls_cons plain node rest).symm)

/-- The calls that a call holds correspond to the calls below its call expression. -/
theorem ofChildren_alike : ∀ children : List Node, (∀ node ∈ children, node.Everywhere Tidy) →
    ∀ label : Label, label.kind = expressionKind →
      (nesting (ofChildren source label children).held).Alike (ownCalls ⟨label, children⟩)
  | [], _, label, _ => by
    rw [ofChildren]
    exact nesting_nil.trans (ownCalls_nil label).symm
  | ⟨calleeLabel, calleeChildren⟩ :: rest, tidy, label, isCall => by
    have calleeTidy := tidy ⟨calleeLabel, calleeChildren⟩ (by simp)
    have restTidy : ∀ node ∈ rest, node.Everywhere Tidy :=
      fun node member => tidy node (by simp [member])
    rw [ofChildren]
    by_cases named : calleeLabel.named
    · have plain := plainLabel_kind_ne label
      have later := suffixes_alike rest restTidy (plainLabel label) plain
      have same : ∀ position,
          Absorbs ⟨label, ⟨calleeLabel, calleeChildren⟩ :: rest⟩ (position + 1) ↔
            Absorbs ⟨plainLabel label, rest⟩ position := fun position =>
        iff_of_false (not_absorbs_later named position) (not_absorbs plain position)
      have absorbed : Absorbs ⟨label, ⟨calleeLabel, calleeChildren⟩ :: rest⟩ 0 ↔
          hasValueArguments rest = false := absorbs_callee_iff isCall named
      rw [if_pos named]
      -- Whether the callee is joined decides which calls the suffixes are added to.
      by_cases joined : calleeLabel.kind = expressionKind ∧ hasValueArguments rest = false
      · have inner := ofChildren_alike calleeChildren (everywhere_iff.mp calleeTidy).2
          calleeLabel joined.1
        simp only [if_pos joined]
        exact (nesting_extend _ _ _).trans ((inner.beside later).trans
          (ownCalls_cons_joined (fun _ => absorbed.mpr joined.2) same).symm)
      · have inner := ofNode_alike ⟨calleeLabel, calleeChildren⟩ calleeTidy
        have held : (Call.mk (calleeName source ⟨calleeLabel, calleeChildren⟩) label.span
            (ofNode source ⟨calleeLabel, calleeChildren⟩) []).held =
              ofNode source ⟨calleeLabel, calleeChildren⟩ := List.append_nil _
        have own : IsCall ⟨calleeLabel, calleeChildren⟩ →
            ¬ Absorbs ⟨label, ⟨calleeLabel, calleeChildren⟩ :: rest⟩ 0 :=
          fun callee absorbs => joined ⟨callee, absorbed.mp absorbs⟩
        have divided := ownCalls_cons_plain own same
        rw [← held] at inner
        simp only [if_neg joined]
        exact (nesting_extend _ _ _).trans ((inner.beside later).trans divided.symm)
    · have bare : calleeLabel.named = false := by simpa using named
      obtain ⟨leaf, notCall⟩ := (everywhere_iff.mp calleeTidy).1.token bare
      obtain rfl : calleeChildren = [] := leaf
      have divided : (ownCalls ⟨label, ⟨calleeLabel, []⟩ :: rest⟩).Alike
          ((ownCalls ⟨calleeLabel, []⟩).beside (ownCalls ⟨label, rest⟩)) :=
        ownCalls_cons_joined (fun callee => absurd callee notCall) (absorbs_token_iff bare)
      rw [if_neg named]
      exact (ofChildren_alike rest restTidy label isCall).trans
        ((((ownCalls_nil calleeLabel).beside (.refl _)).trans
          (Nesting.empty_beside _)).symm.trans divided.symm)

/-- The calls that suffixes add correspond to the calls below a node with these children. -/
theorem suffixes_alike : ∀ nodes : List Node, (∀ node ∈ nodes, node.Everywhere Tidy) →
    ∀ label : Label, label.kind ≠ expressionKind →
      (nesting (suffixes source nodes).held).Alike (ownCalls ⟨label, nodes⟩)
  | [], _, label, _ => by
    rw [suffixes]
    exact nesting_nil.trans (ownCalls_nil label).symm
  | ⟨label, children⟩ :: rest, tidy, outer, plain => by
    have nodeTidy := tidy ⟨label, children⟩ (by simp)
    obtain ⟨here, below⟩ := everywhere_iff.mp nodeTidy
    have later := suffixes_alike rest (fun node member => tidy node (by simp [member])) outer plain
    have divided := ownCalls_cons plain ⟨label, children⟩ rest
    rw [suffixes]
    refine (nesting_parts_append _ _).trans ((Nesting.Alike.beside ?_ later).trans divided.symm)
    by_cases bare : label.named = false
    · obtain ⟨leaf, notCall⟩ := here.token bare
      obtain rfl : children = [] := leaf
      rw [if_pos bare, withOwnCalls_of_plain notCall]
      exact nesting_nil.trans (ownCalls_nil label).symm
    rw [if_neg bare]
    by_cases annotated : label.kind = "annotated_lambda"
    · have notCall : label.kind ≠ expressionKind := by simp [annotated, expressionKind]
      rw [if_pos annotated, withOwnCalls_of_plain notCall]
      exact annotatedLambda_alike children below (here.lambda annotated) label notCall
    rw [if_neg annotated]
    by_cases lambda : label.kind = "lambda_literal"
    · have notCall : label.kind ≠ expressionKind := by simp [lambda, expressionKind]
      have held : (Parts.mk [] [⟨label.span, ofNodes source children⟩]).held =
          ofNodes source children := by simp [Parts.held]
      rw [if_pos lambda, withOwnCalls_of_plain notCall, held]
      exact ofNodes_alike children below label notCall
    rw [if_neg lambda]
    by_cases suffix : label.kind = "call_suffix"
    · have notCall : label.kind ≠ expressionKind := by simp [suffix, expressionKind]
      rw [if_pos suffix, withOwnCalls_of_plain notCall]
      exact suffixes_alike children below label notCall
    have held : (Parts.mk (ofNode source ⟨label, children⟩) []).held =
        ofNode source ⟨label, children⟩ := List.append_nil _
    rw [if_neg suffix, held]
    exact ofNode_alike ⟨label, children⟩ nodeTidy

/-- The calls of the first lambda of an annotated lambda correspond to the calls below a node
with these children, when no other child has call expressions. -/
theorem annotatedLambda_alike : ∀ nodes : List Node, (∀ node ∈ nodes, node.Everywhere Tidy) →
    (∀ child ∈ nodes.eraseP (·.kind = "lambda_literal"), child.Everywhere (¬ ·.IsCall)) →
    ∀ label : Label, label.kind ≠ expressionKind →
      (nesting ((annotatedLambda source nodes).flatMap (·.calls))).Alike
        (ownCalls ⟨label, nodes⟩)
  | [], _, _, label, _ => by
    rw [annotatedLambda]
    exact nesting_nil.trans (ownCalls_nil label).symm
  | ⟨label, children⟩ :: rest, tidy, free, outer, plain => by
    have divided := ownCalls_cons plain ⟨label, children⟩ rest
    rw [annotatedLambda]
    by_cases lambda : label.kind = "lambda_literal"
    · have notCall : label.kind ≠ expressionKind := by simp [lambda, expressionKind]
      have below := (everywhere_iff.mp (tidy ⟨label, children⟩ (by simp))).2
      have inner := ofNodes_alike children below label notCall
      rw [List.eraseP_cons_of_pos (by simp [kind, lambda])] at free
      have none : (ownCalls ⟨outer, rest⟩).Alike .empty := ownCalls_alike_empty free
      have calls : [Block.mk label.span (ofNodes source children)].flatMap (·.calls) =
          ofNodes source children := by simp
      rw [withOwnCalls_of_plain notCall] at divided
      rw [if_pos lambda, calls]
      exact inner.trans (((Nesting.Alike.refl _).beside none).trans
        (Nesting.beside_empty _) |>.symm.trans divided.symm)
    · rw [List.eraseP_cons_of_neg (by simp [kind, lambda])] at free
      have later := annotatedLambda_alike rest (fun node member => tidy node (by simp [member]))
        (fun child member => free child (by simp [member])) outer plain
      have none := withOwnCalls_alike_empty (free ⟨label, children⟩ (by simp))
      rw [if_neg lambda]
      exact later.trans (((none.beside (.refl _)).trans (Nesting.empty_beside _)).symm.trans
        divided.symm)

end

end Call

namespace Block

/-- Whether the calls of a block at any depth and the call expressions below a node that are
calls of their own correspond one to one, each call with the span of its call expression, so
that calls are below one another exactly when their call expressions are inside one another. -/
def CorrespondsTo (block : Block) (node : Node) : Prop :=
  ∃ places : { path : List Nat // (Path.follow? Call.held block.calls path).isSome } ≃
      { path : List Nat // ∃ call, node.OwnCall path call },
    (∀ place call, Path.follow? Call.held block.calls place.1 = some call →
      ∃ expression, node.OwnCall (places place).1 expression ∧ call.span = expression.span) ∧
    ∀ inner outer, Path.Inside (places inner).1 (places outer).1 ↔ Path.Inside inner.1 outer.1

/-- The calls of a body or lambda correspond to the call expressions of its node. -/
theorem ofNode_correspondsTo (source : Source) (node : Node) (plain : ¬ node.IsCall)
    (tidy : node.Everywhere Node.Tidy) : (ofNode source node).CorrespondsTo node := by
  obtain ⟨label, children⟩ := node
  have below := (Node.everywhere_iff.mp tidy).2
  have alike := Call.ofNodes_alike source children below label plain
  obtain ⟨places, spans, inside⟩ := Nesting.alike_ofPaths_iff.mp alike
  refine ⟨places, fun place call found => ?_, inside⟩
  obtain ⟨expression, own⟩ := (places place).2
  have expressionSpan : Node.spanAt ⟨label, children⟩ (places place).1 = expression.span := by
    rw [Node.spanAt, own.1]
    rfl
  have callSpan := spans place
  rw [expressionSpan] at callSpan
  refine ⟨expression, own, ?_⟩
  rw [callSpan]
  exact (congrArg (fun call => (Option.map Call.span call).getD {}) found).symm

/-- A node of a text in one line. -/
def nodeOf (kind : String) (named : Bool) (start stop : Nat) (children : List Node) : Node :=
  ⟨⟨kind, named, start, stop, 0, start⟩, children⟩

/-- The body written by `{ setContent(f()) { g() } }`. -/
def contentBody : Node :=
  nodeOf "block" true 0 27
    [nodeOf "\x7b" false 0 1 [],
      nodeOf "call_expression" true 2 25
        [nodeOf "call_expression" true 2 17
          [nodeOf "identifier" true 2 12 [],
            nodeOf "value_arguments" true 12 17
              [nodeOf "call_expression" true 13 16
                [nodeOf "identifier" true 13 14 [], nodeOf "value_arguments" true 14 16 []]]],
          nodeOf "annotated_lambda" true 18 25
            [nodeOf "lambda_literal" true 18 25
              [nodeOf "call_expression" true 20 23
                [nodeOf "identifier" true 20 21 [], nodeOf "value_arguments" true 21 23 []]]]],
      nodeOf "\x7d" false 26 27 []]

/-- The body with two call expressions for one call is as the parser promises, and its calls
correspond to its call expressions. -/
theorem contentBody_correspondsTo : ¬ contentBody.IsCall ∧ contentBody.Everywhere Node.Tidy ∧
    (ofNode (.ofString "\x7b setContent(f()) \x7b g() \x7d \x7d") contentBody).CorrespondsTo
      contentBody := by
  have plain : ¬ contentBody.IsCall := by decide
  have tidy : contentBody.Everywhere Node.Tidy := by
    simp [contentBody, nodeOf, Node.everywhere_mk, Node.tidy_iff, Node.kind, Node.IsCall,
      Call.expressionKind]
  exact ⟨plain, tidy, ofNode_correspondsTo _ contentBody plain tidy⟩

end Block

end KotlinLint
