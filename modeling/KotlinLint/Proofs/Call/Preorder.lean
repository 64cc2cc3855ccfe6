import KotlinLint.Call

/-!
# Search in preorder

A search for a call by name answers the first call of this name in preorder
(`Block.find?_eq_preorder_find?`), so it finds every call at any depth and goes through a call
before it goes through what the call holds. A call comes in preorder with all that it holds
(`Block.preorder_subset`).
-/

namespace KotlinLint

mutual

/-- The search from a call goes through its preorder. -/
theorem Call.find?_eq_preorder_find? (name : String) : ∀ call : Call,
    call.find? name = call.preorder.find? (·.callee = name)
  | ⟨callee, span, nested, lambdas⟩ => by
    have first := Call.findAny?_eq_preorderAll_find? name nested
    have later := Block.findAny?_eq_preorderAll_find? name lambdas
    rw [Call.find?, Call.preorder, List.find?_cons, List.find?_append, first, later]
    by_cases here : callee = name
    · simp [here]
    · simp [here]

/-- The search in a list of calls goes through their preorder. -/
theorem Call.findAny?_eq_preorderAll_find? (name : String) : ∀ calls : List Call,
    Call.findAny? name calls = (Call.preorderAll calls).find? (·.callee = name)
  | [] => rfl
  | call :: rest => by
    have first := Call.find?_eq_preorder_find? name call
    have later := Call.findAny?_eq_preorderAll_find? name rest
    rw [Call.findAny?, Call.preorderAll, List.find?_append, first, later]

/-- The search in a block goes through its preorder. -/
theorem Block.find?_eq_preorder_find? (name : String) : ∀ block : Block,
    block.find? name = block.preorder.find? (·.callee = name)
  | ⟨span, calls⟩ => by
    have all := Call.findAny?_eq_preorderAll_find? name calls
    rw [Block.find?, Block.preorder, all]

/-- The search in a list of blocks goes through their preorder. -/
theorem Block.findAny?_eq_preorderAll_find? (name : String) : ∀ blocks : List Block,
    Block.findAny? name blocks = (Block.preorderAll blocks).find? (·.callee = name)
  | [] => rfl
  | block :: rest => by
    have first := Block.find?_eq_preorder_find? name block
    have later := Block.findAny?_eq_preorderAll_find? name rest
    rw [Block.findAny?, Block.preorderAll, List.find?_append, first, later]

end

section Inside

variable {inner : Call}

mutual

/-- What a call holds that is held by another call is held by the other call. -/
theorem Call.preorder_subset : ∀ outer : Call,
    inner ∈ outer.preorder → inner.preorder ⊆ outer.preorder
  | ⟨callee, span, nested, lambdas⟩, listed => by
    have first := Call.preorderAll_subset nested
    have later := Block.preorderAll_subset lambdas
    rw [Call.preorder, List.mem_cons, List.mem_append] at listed
    rcases listed with rfl | listed | listed
    · exact List.Subset.refl _
    · intro held inside
      exact List.mem_cons_of_mem _ (List.mem_append_left _ (first listed inside))
    · intro held inside
      exact List.mem_cons_of_mem _ (List.mem_append_right _ (later listed inside))

/-- What a call holds that is among the calls of a list is among them. -/
theorem Call.preorderAll_subset : ∀ calls : List Call,
    inner ∈ Call.preorderAll calls → inner.preorder ⊆ Call.preorderAll calls
  | [], listed => by cases listed
  | call :: rest, listed => by
    have first := Call.preorder_subset call
    have later := Call.preorderAll_subset rest
    rw [Call.preorderAll, List.mem_append] at listed
    rcases listed with listed | listed
    · exact List.subset_append_of_subset_left _ (first listed)
    · exact List.subset_append_of_subset_right _ (later listed)

/-- What a call holds that is among the calls of a block is among them. -/
theorem Block.preorder_subset : ∀ block : Block,
    inner ∈ block.preorder → inner.preorder ⊆ block.preorder
  | ⟨_, calls⟩, listed => Call.preorderAll_subset calls listed

/-- What a call holds that is among the calls of some blocks is among them. -/
theorem Block.preorderAll_subset : ∀ blocks : List Block,
    inner ∈ Block.preorderAll blocks → inner.preorder ⊆ Block.preorderAll blocks
  | [], listed => by cases listed
  | block :: rest, listed => by
    have first := Block.preorder_subset block
    have later := Block.preorderAll_subset rest
    rw [Block.preorderAll, List.mem_append] at listed
    rcases listed with listed | listed
    · exact List.subset_append_of_subset_left _ (first listed)
    · exact List.subset_append_of_subset_right _ (later listed)

end

end Inside

/-- A call holds the calls of its first trailing lambda. -/
theorem Call.preorder_subset_of_head? {call : Call} {lambda : Block}
    (first : call.lambdas.head? = some lambda) : lambda.preorder ⊆ call.preorder := by
  obtain ⟨callee, span, nested, lambdas⟩ := call
  cases lambdas with
  | nil => cases first
  | cons block rest =>
    cases first
    rw [Call.preorder, Block.preorderAll]
    intro inner listed
    exact List.mem_cons_of_mem _ (List.mem_append_right _ (List.mem_append_left _ listed))

end KotlinLint
