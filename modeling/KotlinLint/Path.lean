/-!
# Paths in trees

A path says step by step which of the trees directly below is taken, by its position. What is
directly below a tree is a parameter, so the same paths serve syntax trees, declarations and
calls.
-/

namespace KotlinLint.Path

variable {α : Type}

/-- The tree that a path from a tree leads to. -/
def descend? (below : α → List α) (tree : α) : List Nat → Option α
  | [] => some tree
  | position :: path => (below tree)[position]?.bind fun child => descend? below child path

/-- The tree that a path from a list of trees leads to; the path has to say which one is taken
first. -/
def follow? (below : α → List α) (trees : List α) : List Nat → Option α
  | [] => none
  | position :: path => trees[position]?.bind fun tree => descend? below tree path

end KotlinLint.Path
