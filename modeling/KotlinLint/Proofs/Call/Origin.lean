import KotlinLint.Proofs.Placement

/-!
# Where calls come from

Every call in a body, whether it is outermost, in an argument or in a lambda, is what one call
expression inside the body is read as (`Block.exists_expression_of_mem_preorder`). A call
expression that is absorbed by the one around it adds its parts to that one's call and is no call
by itself.
-/

namespace KotlinLint

/-- The calls of two lists of calls are those of the first and then those of the second. -/
theorem Call.preorderAll_append (first second : List Call) :
    Call.preorderAll (first ++ second) = Call.preorderAll first ++ Call.preorderAll second := by
  induction first with
  | nil => rfl
  | cons call rest ih =>
    rw [List.cons_append, Call.preorderAll, Call.preorderAll, ih, List.append_assoc]

/-- The calls of two lists of blocks are those of the first and then those of the second. -/
theorem Block.preorderAll_append (first second : List Block) :
    Block.preorderAll (first ++ second) = Block.preorderAll first ++ Block.preorderAll second := by
  induction first with
  | nil => rfl
  | cons block rest ih =>
    rw [List.cons_append, Block.preorderAll, Block.preorderAll, ih, List.append_assoc]

namespace Call

/-- The calls of some parts at any depth. -/
def Parts.preorder (parts : Parts) : List Call :=
  preorderAll parts.nested ++ Block.preorderAll parts.lambdas

/-- The parts of a call. -/
def parts (call : Call) : Parts := ⟨call.nested, call.lambdas⟩

/-- A call comes before those of its parts. -/
theorem preorder_eq (call : Call) : call.preorder = call :: call.parts.preorder := by
  cases call
  rfl

/-- More parts of a call come after those it has. -/
theorem parts_extend (call : Call) (span : Span) (added : Parts) :
    (call.extend span added).parts = call.parts ++ added := rfl

/-- The calls of two parts are those of either. -/
theorem Parts.mem_preorder_append {first second : Parts} {call : Call} :
    call ∈ (first ++ second).preorder ↔ call ∈ first.preorder ∨ call ∈ second.preorder := by
  have joined : (first ++ second).preorder = preorderAll (first.nested ++ second.nested) ++
    Block.preorderAll (first.lambdas ++ second.lambdas) := rfl
  rw [joined, preorderAll_append, Block.preorderAll_append]
  simp only [Parts.preorder, List.mem_append]
  exact or_or_or_comm

/-- Whether a condition holds of the call that a node is read as, when it is a call
expression. -/
def HoldsAt (source : Source) (Holds : Call → Prop) (node : Node) : Prop :=
  node.IsCall → ∀ call, ofNode source node = [call] → Holds call

section Reading

variable (source : Source) {Holds : Call → Prop}

mutual

/-- A condition that holds at all nodes of a tree holds of all its calls. -/
theorem forall_mem_preorderAll_ofNode : ∀ node : Node,
    node.Everywhere (HoldsAt source Holds) →
      ∀ call ∈ preorderAll (ofNode source node), Holds call
  | ⟨label, children⟩, everywhere, call, listed => by
    obtain ⟨here, below⟩ := Node.everywhere_mk.mp everywhere
    by_cases isCall : label.kind = expressionKind
    · have reads : ofNode source ⟨label, children⟩ = [ofChildren source label children] := by
        rw [ofNode, if_pos isCall]
      rw [reads, preorderAll, preorderAll, List.append_nil, preorder_eq, List.mem_cons] at listed
      rcases listed with rfl | inside
      · exact here isCall _ reads
      · exact forall_mem_parts_ofChildren label children below call inside
    · rw [ofNode, if_neg isCall] at listed
      exact forall_mem_preorderAll_ofNodes children below call listed

/-- A condition that holds at all nodes of some trees holds of all their calls. -/
theorem forall_mem_preorderAll_ofNodes : ∀ nodes : List Node,
    (∀ node ∈ nodes, node.Everywhere (HoldsAt source Holds)) →
      ∀ call ∈ preorderAll (ofNodes source nodes), Holds call
  | [], _, call, listed => by
    rw [ofNodes] at listed
    cases listed
  | node :: rest, everywhere, call, listed => by
    obtain ⟨first, later⟩ := List.forall_mem_cons.mp everywhere
    rw [ofNodes, preorderAll_append, List.mem_append] at listed
    rcases listed with listed | listed
    · exact forall_mem_preorderAll_ofNode node first call listed
    · exact forall_mem_preorderAll_ofNodes rest later call listed

/-- A condition that holds at all nodes below a call expression holds of the calls of its
parts. -/
theorem forall_mem_parts_ofChildren (label : Label) : ∀ children : List Node,
    (∀ node ∈ children, node.Everywhere (HoldsAt source Holds)) →
      ∀ call ∈ (ofChildren source label children).parts.preorder, Holds call
  | [], _, call, listed => by
    rw [ofChildren] at listed
    cases listed
  | ⟨calleeLabel, calleeChildren⟩ :: rest, everywhere, call, listed => by
    obtain ⟨first, later⟩ := List.forall_mem_cons.mp everywhere
    rw [ofChildren] at listed
    split at listed
    · dsimp only at listed
      rw [parts_extend, Parts.mem_preorder_append] at listed
      rcases listed with listed | listed
      · split at listed
        -- An absorbed call expression adds its parts and is no call by itself.
        · exact forall_mem_parts_ofChildren calleeLabel calleeChildren
            (Node.everywhere_mk.mp first).2 call listed
        · have callee : call ∈ preorderAll (ofNode source ⟨calleeLabel, calleeChildren⟩) := by
            simpa [parts, Parts.preorder, Block.preorderAll] using listed
          exact forall_mem_preorderAll_ofNode _ first call callee
      · exact forall_mem_suffixes rest later call listed
    · exact forall_mem_parts_ofChildren label rest later call listed

/-- A condition that holds at all nodes of some suffixes holds of all calls that they add. -/
theorem forall_mem_suffixes : ∀ nodes : List Node,
    (∀ node ∈ nodes, node.Everywhere (HoldsAt source Holds)) →
      ∀ call ∈ (suffixes source nodes).preorder, Holds call
  | [], _, call, listed => by
    rw [suffixes] at listed
    cases listed
  | ⟨label, children⟩ :: rest, everywhere, call, listed => by
    obtain ⟨first, later⟩ := List.forall_mem_cons.mp everywhere
    have below := (Node.everywhere_mk.mp first).2
    rw [suffixes] at listed
    rcases Parts.mem_preorder_append.mp listed with listed | listed
    · split at listed
      · cases listed
      · split at listed
        · exact forall_mem_annotatedLambda children below call listed
        · split at listed
          · have lambda : call ∈ preorderAll (ofNodes source children) := by
              simpa [Parts.preorder, preorderAll, Block.preorderAll, Block.preorder] using listed
            exact forall_mem_preorderAll_ofNodes children below call lambda
          · split at listed
            · exact forall_mem_suffixes children below call listed
            · have argument : call ∈ preorderAll (ofNode source ⟨label, children⟩) := by
                simpa [Parts.preorder, Block.preorderAll] using listed
              exact forall_mem_preorderAll_ofNode _ first call argument
    · exact forall_mem_suffixes rest later call listed

/-- A condition that holds at all nodes of an annotated lambda holds of all calls of its
block. -/
theorem forall_mem_annotatedLambda : ∀ nodes : List Node,
    (∀ node ∈ nodes, node.Everywhere (HoldsAt source Holds)) →
      ∀ call ∈ Block.preorderAll (annotatedLambda source nodes), Holds call
  | [], _, call, listed => by
    rw [annotatedLambda] at listed
    cases listed
  | ⟨label, children⟩ :: rest, everywhere, call, listed => by
    obtain ⟨first, later⟩ := List.forall_mem_cons.mp everywhere
    rw [annotatedLambda] at listed
    split at listed
    · have lambda : call ∈ preorderAll (ofNodes source children) := by
        simpa [Block.preorderAll, Block.preorder] using listed
      exact forall_mem_preorderAll_ofNodes children (Node.everywhere_mk.mp first).2 call lambda
    · exact forall_mem_annotatedLambda rest later call listed

end

end Reading

end Call

/-- Every call of a body is what a call expression inside the body is read as. -/
theorem Block.exists_expression_of_mem_preorder {source : Source} {body : Node} {call : Call}
    (listed : call ∈ (Block.ofNode source body).preorder) :
    ∃ expression, body.Encloses expression ∧ expression.IsCall ∧
      Call.ofNode source expression = [call] := by
  have everywhere : ∀ child ∈ body.children, child.Everywhere (Call.HoldsAt source fun found =>
      ∃ expression, body.Encloses expression ∧ expression.IsCall ∧
        Call.ofNode source expression = [found]) := by
    intro child isChild path expression reached isCall found reads
    exact ⟨expression, ⟨child, isChild, path, reached⟩, isCall, reads⟩
  exact Call.forall_mem_preorderAll_ofNodes source body.children everywhere call listed

end KotlinLint
