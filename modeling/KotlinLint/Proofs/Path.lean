import KotlinLint.Path
import Mathlib.Logic.Function.Basic

/-!
# Steps of paths

A path from a list of trees goes through the first tree or through a later one, and then it is
the shift of a path from the others. A place is inside another when its path goes on where that
of the other ends. Places have one order, which goes from left to right and comes to a place
after all that is inside it.
-/

namespace KotlinLint.Path

/-- Whether the first path leads to a place inside the one that the second leads to. -/
def Inside (inner outer : List Nat) : Prop := outer <+: inner ∧ outer ≠ inner

/-- A place is inside a place of the same tree when it is after the step to that tree. -/
theorem inside_cons_iff {position other : Nat} {inner outer : List Nat} :
    Inside (position :: inner) (other :: outer) ↔
      other = position ∧ Inside inner outer := by
  rw [Inside, Inside, List.cons_prefix_cons, ne_eq, List.cons.injEq]
  constructor
  · intro inside
    obtain ⟨⟨same, start⟩, differ⟩ := inside
    exact ⟨same, start, fun path => differ ⟨same, path⟩⟩
  · intro inside
    obtain ⟨same, start, differ⟩ := inside
    exact ⟨⟨same, start⟩, fun paths => differ paths.2⟩

/-- Places of one tree keep what is inside what when the step to that tree is put before. -/
theorem cons_inside_cons_iff {step : Nat} {inner outer : List Nat} :
    Inside (step :: inner) (step :: outer) ↔ Inside inner outer := by
  rw [inside_cons_iff]
  exact and_iff_right rfl

/-- The empty path leads to no place inside another. -/
theorem not_nil_inside (outer : List Nat) : ¬ Inside [] outer := by
  intro inside
  exact inside.2 (List.prefix_nil.mp inside.1)

/-- Every step leads to a place inside the start. -/
theorem inside_nil_iff {inner : List Nat} : Inside inner [] ↔ inner ≠ [] := by
  simp [Inside, eq_comm]

/-- The path that takes the tree after the one that a path takes first. -/
def shift : List Nat → List Nat
  | [] => []
  | position :: path => (position + 1) :: path

/-- Shifted paths differ when the paths do. -/
theorem shift_injective : Function.Injective shift := by
  intro first second same
  cases first with
  | nil =>
    cases second with
    | nil => rfl
    | cons other rest => cases same
  | cons position path =>
    cases second with
    | nil => cases same
    | cons other rest =>
      injection same with positions paths
      have positions : position = other := by omega
      rw [positions, paths]

/-- No path through the first tree is shifted. -/
theorem cons_zero_ne_shift (inner : List Nat) {path : List Nat} (started : path ≠ []) :
    0 :: inner ≠ shift path := by
  intro same
  cases path with
  | nil => exact started rfl
  | cons position rest =>
    injection same with positions
    omega

/-- What is in the first tree is not inside what is in a later one. -/
theorem not_cons_zero_inside_shift {inner path : List Nat} (started : path ≠ []) :
    ¬ Inside (0 :: inner) (shift path) := by
  intro inside
  cases path with
  | nil => exact started rfl
  | cons position rest =>
    have positions := (inside_cons_iff.mp inside).1
    omega

/-- What is in a later tree is not inside what is in the first one. -/
theorem not_shift_inside_cons_zero {outer path : List Nat} (started : path ≠ []) :
    ¬ Inside (shift path) (0 :: outer) := by
  intro inside
  cases path with
  | nil => exact started rfl
  | cons position rest =>
    have positions := (inside_cons_iff.mp inside).1
    omega

/-- Shifted paths keep what is inside what. -/
theorem shift_inside_shift_iff {inner outer : List Nat} (innerStarted : inner ≠ [])
    (outerStarted : outer ≠ []) : Inside (shift inner) (shift outer) ↔ Inside inner outer := by
  cases inner with
  | nil => exact absurd rfl innerStarted
  | cons position inner =>
    cases outer with
    | nil => exact absurd rfl outerStarted
    | cons other outer =>
      rw [shift, shift, inside_cons_iff, inside_cons_iff]
      have positions : other + 1 = position + 1 ↔ other = position := by omega
      rw [positions]

/-- Whether the first path leads to a place that comes before the one that the second leads to.
-/
inductive Before : List Nat → List Nat → Prop where
  /-- What is inside a place comes before it. -/
  | inside {inner outer : List Nat} : Inside inner outer → Before inner outer
  /-- What is in an earlier tree comes before what is in a later one. -/
  | beside {common first second : List Nat} {position other : Nat} : position < other →
      Before (common ++ position :: first) (common ++ other :: second)

/-- No place comes before itself. -/
theorem Before.ne {first second : List Nat} (before : Before first second) : first ≠ second := by
  intro same
  cases before with
  | inside inside => exact inside.2 same.symm
  | beside smaller =>
    have tails := List.append_cancel_left same
    injection tails with positions
    omega

/-- Places of one tree keep their order when the step to that tree is put before. -/
theorem Before.cons {first second : List Nat} (step : Nat) (before : Before first second) :
    Before (step :: first) (step :: second) := by
  cases before with
  | inside inside => exact .inside (inside_cons_iff.mpr ⟨rfl, inside⟩)
  | @beside common first second position other smaller =>
    show Before ((step :: common) ++ position :: first) ((step :: common) ++ other :: second)
    exact .beside smaller

/-- Shifted paths keep their order. -/
theorem Before.shift {first second : List Nat} (before : Before first second) :
    Before (shift first) (shift second) := by
  cases before with
  | inside inside =>
    cases first with
    | nil => exact absurd inside (not_nil_inside second)
    | cons position inner =>
      cases second with
      | nil => exact .inside (inside_nil_iff.mpr (List.cons_ne_nil _ _))
      | cons other outer =>
        obtain ⟨rfl, deeper⟩ := inside_cons_iff.mp inside
        exact .inside (inside_cons_iff.mpr ⟨rfl, deeper⟩)
  | @beside common first second position other smaller =>
    have later : position + 1 < other + 1 := by omega
    cases common with
    | nil =>
      show Before ([] ++ (position + 1) :: first) ([] ++ (other + 1) :: second)
      exact .beside later
    | cons step common =>
      show Before (((step + 1) :: common) ++ position :: first)
        (((step + 1) :: common) ++ other :: second)
      exact .beside smaller

/-- What is in the first tree comes before what is in a later one. -/
theorem before_shift (inner : List Nat) {path : List Nat} (started : path ≠ []) :
    Before (0 :: inner) (Path.shift path) := by
  cases path with
  | nil => exact absurd rfl started
  | cons position rest =>
    have smaller : 0 < position + 1 := by omega
    show Before ([] ++ 0 :: inner) ([] ++ (position + 1) :: rest)
    exact .beside smaller

section Follow

variable {α : Type} (below : α → List α) (tree : α) (trees : List α)

/-- The path of one step to the first tree. -/
theorem follow?_first : follow? below (tree :: trees) [0] = some tree := rfl

/-- A path through the first tree goes on below it. -/
theorem follow?_cons_zero (position : Nat) (path : List Nat) :
    follow? below (tree :: trees) (0 :: position :: path) =
      follow? below (below tree) (position :: path) := rfl

/-- A path through a later tree is the shift of a path from the others. -/
theorem follow?_shift (path : List Nat) :
    follow? below (tree :: trees) (shift path) = follow? below trees path := by
  cases path <;> rfl

/-- One more step of a path that is not empty leads to a tree below the one reached. -/
theorem follow?_concat {path : List Nat} (started : path ≠ []) (position : Nat) :
    follow? below trees (path ++ [position]) =
      (follow? below trees path).bind fun reached => (below reached)[position]? := by
  have further : ∀ (start : α) (rest : List Nat),
      descend? below start (rest ++ [position]) =
        (descend? below start rest).bind fun reached => (below reached)[position]? := by
    intro start rest
    induction rest generalizing start with
    | nil =>
      show ((below start)[position]?.bind fun child => some child) = (below start)[position]?
      exact Option.bind_fun_some _
    | cons step rest ih =>
      simp only [List.cons_append, descend?, ih]
      rw [Option.bind_assoc]
  cases path with
  | nil => exact absurd rfl started
  | cons step rest =>
    simp only [List.cons_append, follow?, further]
    rw [Option.bind_assoc]

end Follow

end KotlinLint.Path
