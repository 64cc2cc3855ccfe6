import KotlinLint.Proofs.Call.Chain
import KotlinLint.Proofs.Call.Origin
import KotlinLint.Proofs.Ranges

/-!
# Ranges of calls

A call that is joined with the one around it gets a new range after its parts were read, which is
that of the outer call expression. So the parts of a call are inside it at any depth, and the calls
of a body are inside the body (`Block.nests_ofNode`).
-/

namespace KotlinLint

/-- Whether what a call holds is inside it. -/
structure Call.HoldsWithin (call : Call) : Prop where
  nested : ∀ inner ∈ call.nested, inner.span.Within call.span
  lambdas : ∀ lambda ∈ call.lambdas, lambda.span.Within call.span
  /-- What a lambda of the call holds at any depth is inside the lambda. -/
  inLambdas : ∀ lambda ∈ call.lambdas, ∀ inner ∈ lambda.preorder, inner.span.Within lambda.span

/-- Whether the calls of a block are inside it, and what they hold inside them. -/
structure Block.Nests (block : Block) : Prop where
  calls : ∀ call ∈ block.preorder, call.span.Within block.span
  parts : ∀ call ∈ block.preorder, call.HoldsWithin

namespace Call

open Node

/-- The calls of a list are among those at any depth. -/
theorem subset_preorderAll (calls : List Call) : calls ⊆ preorderAll calls := by
  induction calls with
  | nil => exact List.Subset.refl _
  | cons call rest ih =>
    rw [preorderAll, preorder_eq, List.cons_append]
    exact List.cons_subset_cons _ (List.subset_append_of_subset_right _ ih)

/-- A suffix that is unwrapped is in the suffixes. -/
theorem exists_root_of_mem_unwrapSuffixes {suffix : Node} : ∀ nodes : List Node,
    suffix ∈ unwrapSuffixes nodes → ∃ root ∈ nodes, root.Contains suffix
  | [], listed => by
    rw [unwrapSuffixes] at listed
    cases listed
  | ⟨label, children⟩ :: rest, listed => by
    rw [unwrapSuffixes] at listed
    rcases List.mem_append.mp listed with here | later
    · refine ⟨⟨label, children⟩, List.mem_cons_self, ?_⟩
      split at here
      · cases here
      · split at here
        · exact Encloses.contains (exists_root_of_mem_unwrapSuffixes children here)
        · rw [List.mem_singleton.mp here]
          exact .refl _
    · obtain ⟨root, isRoot, inside⟩ := exists_root_of_mem_unwrapSuffixes rest later
      exact ⟨root, List.mem_cons_of_mem _ isRoot, inside⟩

/-- The lambda of a suffix is in the suffix. -/
theorem contains_of_lambda? {suffix lambda : Node} (isLambda : suffix.lambda? = some lambda) :
    suffix.Contains lambda := by
  rw [Node.lambda?] at isLambda
  split at isLambda
  · have isChild : lambda ∈ suffix.children := List.mem_of_find?_eq_some isLambda
    exact (encloses_child isChild).contains
  · split at isLambda
    · rw [Option.some.inj isLambda]
      exact .refl _
    · cases isLambda

variable {source : Source} {block : Block}

/-- The lambdas that suffixes add are read from what the suffixes have. -/
theorem exists_lambda_of_mem_suffixes {nodes : List Node}
    (listed : block ∈ (suffixes source nodes).lambdas) :
    ∃ root ∈ nodes, ∃ lambda, root.Contains lambda ∧ block = Block.ofNode source lambda := by
  rw [suffixes_eq] at listed
  obtain ⟨lambda, isFound, rfl⟩ := List.mem_map.mp listed
  obtain ⟨suffix, isSuffix, isLambda⟩ := List.mem_filterMap.mp isFound
  obtain ⟨root, isRoot, inside⟩ := exists_root_of_mem_unwrapSuffixes nodes isSuffix
  exact ⟨root, isRoot, lambda, inside.trans (contains_of_lambda? isLambda), rfl⟩

/-- The lambdas of the call of a call expression are read from what the call expression has. -/
theorem exists_lambda_of_mem_lambdas (label : Label) : ∀ children : List Node,
    block ∈ (ofChildren source label children).lambdas →
      ∃ root ∈ children, ∃ lambda, root.Contains lambda ∧ block = Block.ofNode source lambda
  | [], listed => by
    rw [ofChildren] at listed
    cases listed
  | ⟨calleeLabel, calleeChildren⟩ :: rest, listed => by
    rw [ofChildren] at listed
    split at listed
    · rcases List.mem_append.mp listed with ofCallee | ofSuffixes
      · split at ofCallee
        · have below := exists_lambda_of_mem_lambdas calleeLabel calleeChildren ofCallee
          obtain ⟨root, isRoot, lambda, inside, reads⟩ := below
          have around : (⟨calleeLabel, calleeChildren⟩ : Node).Contains lambda :=
            Encloses.contains ⟨root, isRoot, inside⟩
          exact ⟨_, List.mem_cons_self, lambda, around, reads⟩
        · cases ofCallee
      · obtain ⟨root, isRoot, found⟩ := exists_lambda_of_mem_suffixes ofSuffixes
        exact ⟨root, List.mem_cons_of_mem _ isRoot, found⟩
    · obtain ⟨root, isRoot, found⟩ := exists_lambda_of_mem_lambdas label rest listed
      exact ⟨root, List.mem_cons_of_mem _ isRoot, found⟩

/-- The calls in the parts of a call are what call expressions inside its own one are read as. -/
theorem exists_expression_of_mem_parts {expression : Node} {call inner : Call}
    (isCall : expression.IsCall) (reads : ofNode source expression = [call])
    (listed : inner ∈ call.parts.preorder) :
    ∃ node, expression.Encloses node ∧ node.IsCall ∧ ofNode source node = [inner] := by
  obtain ⟨label, children⟩ := expression
  have kind : label.kind = expressionKind := isCall
  rw [ofNode, if_pos kind] at reads
  rw [← List.singleton_inj.mp reads] at listed
  have everywhere : ∀ child ∈ children, child.Everywhere (HoldsAt source fun found =>
      ∃ node, Encloses ⟨label, children⟩ node ∧ node.IsCall ∧ ofNode source node = [found]) := by
    intro child isChild path node reached isCall found reads
    exact ⟨node, ⟨child, isChild, path, reached⟩, isCall, reads⟩
  exact forall_mem_parts_ofChildren source label children everywhere inner listed

end Call

/-- The calls of a node are inside the node. -/
theorem Block.spanWithin_of_mem_preorder {source : Source} {body : Node} {call : Call}
    (ranged : body.Everywhere Node.Ranged) (listed : call ∈ (Block.ofNode source body).preorder) :
    call.span.Within body.span := by
  obtain ⟨expression, inside, isCall, reads⟩ := Block.exists_expression_of_mem_preorder listed
  rw [isCall.span_eq reads]
  exact inside.contains.spanWithin ranged

/-- The call of a call expression holds what is inside it. -/
theorem Call.holdsWithin_of_reads {source : Source} {expression : Node} {call : Call}
    (ranged : expression.Everywhere Node.Ranged) (isCall : expression.IsCall)
    (reads : Call.ofNode source expression = [call]) : call.HoldsWithin := by
  have span := isCall.span_eq reads
  have lambdaNode : ∀ lambda ∈ call.lambdas, ∃ node, expression.Contains node ∧
      lambda = Block.ofNode source node := by
    intro lambda listed
    obtain ⟨label, children⟩ := expression
    have kind : label.kind = expressionKind := isCall
    rw [ofNode, if_pos kind] at reads
    rw [← List.singleton_inj.mp reads] at listed
    obtain ⟨root, isRoot, node, inside, same⟩ := exists_lambda_of_mem_lambdas label children listed
    exact ⟨node, Node.Encloses.contains ⟨root, isRoot, inside⟩, same⟩
  constructor
  · intro inner listed
    have isPart : inner ∈ call.parts.preorder :=
      List.mem_append_left _ (subset_preorderAll call.nested listed)
    obtain ⟨node, inside, innerCall, innerReads⟩ :=
      exists_expression_of_mem_parts isCall reads isPart
    rw [span, innerCall.span_eq innerReads]
    exact inside.contains.spanWithin ranged
  · intro lambda listed
    obtain ⟨node, inside, rfl⟩ := lambdaNode lambda listed
    rw [span]
    exact inside.spanWithin ranged
  · intro lambda listed inner isInner
    obtain ⟨node, inside, rfl⟩ := lambdaNode lambda listed
    exact Block.spanWithin_of_mem_preorder (ranged.of_contains inside) isInner

/-- The calls of a body are inside the body, and all that they hold is inside them. -/
theorem Block.nests_ofNode (source : Source) {body : Node} (ranged : body.Everywhere Node.Ranged) :
    (Block.ofNode source body).Nests := by
  constructor
  · intro call listed
    exact spanWithin_of_mem_preorder ranged listed
  · intro call listed
    obtain ⟨expression, inside, isCall, reads⟩ := exists_expression_of_mem_preorder listed
    exact Call.holdsWithin_of_reads (ranged.of_contains inside.contains) isCall reads

end KotlinLint
