import KotlinLint.Proofs.Call.SourceOrder

/-!
# Calls found by name

The preorder of a block lists the calls at all of its places, in receivers, in arguments and in
lambdas at any depth (`Block.mem_preorder_iff_place`). So a search for a name answers the first call
of the name in preorder, and none exactly when there is no such call at any place
(`Block.find?_first_in_preorder`).
-/

namespace KotlinLint

namespace Call

/-- The calls of a list in preorder are those at its places, when this is so of each call. -/
theorem mem_preorderAll_iff_place {calls : List Call} {inner : Call}
    (each : ∀ call ∈ calls, inner ∈ call.preorder ↔
      ∃ place, Path.descend? held call place = some inner) :
    inner ∈ preorderAll calls ↔ ∃ place, Path.follow? held calls place = some inner := by
  rw [preorderAll_eq_flatMap, List.mem_flatMap]
  constructor
  · rintro ⟨call, listed, inside⟩
    obtain ⟨position, found⟩ := List.mem_iff_getElem?.mp listed
    obtain ⟨place, leads⟩ := (each call listed).mp inside
    refine ⟨position :: place, ?_⟩
    rw [Path.follow?, found]
    exact leads
  · rintro ⟨place, leads⟩
    cases place with
    | nil => cases leads
    | cons position place =>
      rw [Path.follow?, Option.bind_eq_some_iff] at leads
      obtain ⟨call, found, below⟩ := leads
      have listed := List.mem_of_getElem? found
      exact ⟨call, listed, (each call listed).mpr ⟨place, below⟩⟩

/-- The calls of a call in preorder are those at its places. -/
theorem mem_preorder_iff_place (inner : Call) : ∀ call : Call,
    inner ∈ call.preorder ↔ ∃ place, Path.descend? held call place = some inner := by
  apply forall_of_held
  intro call below
  rw [preorder_eq_cons_held, List.mem_cons, mem_preorderAll_iff_place below]
  constructor
  · rintro (rfl | ⟨place, leads⟩)
    · exact ⟨[], rfl⟩
    · cases place with
      | nil => cases leads
      | cons position place => exact ⟨position :: place, leads⟩
  · rintro ⟨place, leads⟩
    cases place with
    | nil => exact .inl (Option.some.inj leads).symm
    | cons position place => exact .inr ⟨position :: place, leads⟩

end Call

namespace Block

/-- The calls of a block in preorder are those at its places. -/
theorem mem_preorder_iff_place (block : Block) (inner : Call) :
    inner ∈ block.preorder ↔ ∃ place, Path.follow? Call.held block.calls place = some inner := by
  obtain ⟨span, calls⟩ := block
  exact Call.mem_preorderAll_iff_place fun call _ => Call.mem_preorder_iff_place inner call

/-- A search for a name in a block answers the first call of the name in preorder, in which each
call is followed by the calls of its receiver and arguments and then by those of its lambdas. It
answers none exactly when no call at any place of the block has the name. -/
theorem find?_first_in_preorder (block : Block) (name : String) :
    (∀ call, block.find? name = some call ↔ ∃ before after,
      block.preorder = before ++ call :: after ∧ call.callee = name ∧
        ∀ earlier ∈ before, earlier.callee ≠ name) ∧
    (block.find? name = none ↔ ∀ place call,
      Path.follow? Call.held block.calls place = some call → call.callee ≠ name) := by
  rw [find?_eq_preorder_find?]
  constructor
  · intro call
    rw [List.find?_eq_some_iff_append]
    simp only [decide_eq_true_eq, Bool.not_eq_true', decide_eq_false_iff_not]
    constructor
    · rintro ⟨named, before, after, whole, skipped⟩
      exact ⟨before, after, whole, named, skipped⟩
    · rintro ⟨before, after, whole, named, skipped⟩
      exact ⟨named, before, after, whole, skipped⟩
  · rw [List.find?_eq_none]
    simp only [decide_eq_true_eq]
    constructor
    · intro absent place call leads
      exact absent call ((block.mem_preorder_iff_place call).mpr ⟨place, leads⟩)
    · intro absent call listed
      obtain ⟨place, leads⟩ := (block.mem_preorder_iff_place call).mp listed
      exact absent place call leads

/-- A call of an argument is found before one of a lambda, and one of the second lambda is found. -/
example :
    let call (name : String) (start : Nat) : Call := ⟨name, ⟨start, start, 1, start⟩, [], []⟩
    let outer : Call := ⟨"f", {}, [call "g" 2], [⟨{}, [call "g" 4]⟩, ⟨{}, [call "h" 6]⟩]⟩
    ((Block.mk {} [outer]).find? "g").map (·.span.start) = some 2 ∧
      ((Block.mk {} [outer]).find? "h").map (·.span.start) = some 6 := by decide

end Block

end KotlinLint
