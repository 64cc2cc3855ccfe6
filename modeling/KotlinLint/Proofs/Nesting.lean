import KotlinLint.Proofs.Path
import KotlinLint.Span
import Mathlib.Logic.Equiv.Basic
import Mathlib.Logic.Equiv.Option

/-!
# Nestings

A nesting is a collection of places with spans, some of them inside others. Two nestings are
alike when their places correspond one to one, with the same spans and the same places inside
each. Nestings are put together from smaller ones side by side and under a new outermost place,
and both ways keep likeness. The places of a nesting that are paths can be divided by their
first step, which is how a nesting of paths is taken apart along the trees that the paths go
through.
-/

namespace KotlinLint

/-- Places with spans, of which some are inside others. -/
structure Nesting where
  Place : Type
  span : Place → Span
  /-- Whether the first place is inside the second. -/
  Inside : Place → Place → Prop

namespace Nesting

/-- Two nestings are alike when a one-to-one correspondence of their places keeps the spans and
what is inside what. -/
def Alike (first second : Nesting) : Prop :=
  ∃ places : first.Place ≃ second.Place,
    (∀ place, second.span (places place) = first.span place) ∧
    ∀ inner outer, second.Inside (places inner) (places outer) ↔ first.Inside inner outer

/-- Every nesting is like itself. -/
theorem Alike.refl (nesting : Nesting) : nesting.Alike nesting :=
  ⟨Equiv.refl _, fun _ => rfl, fun _ _ => Iff.rfl⟩

/-- Likeness goes both ways. -/
theorem Alike.symm {first second : Nesting} (alike : first.Alike second) :
    second.Alike first := by
  obtain ⟨places, spans, inside⟩ := alike
  refine ⟨places.symm, fun place => ?_, fun inner outer => ?_⟩
  · rw [← spans, places.apply_symm_apply]
  · rw [← inside, places.apply_symm_apply, places.apply_symm_apply]

/-- Likeness is handed on. -/
theorem Alike.trans {first second third : Nesting} (left : first.Alike second)
    (right : second.Alike third) : first.Alike third := by
  obtain ⟨leftPlaces, leftSpans, leftInside⟩ := left
  obtain ⟨rightPlaces, rightSpans, rightInside⟩ := right
  refine ⟨leftPlaces.trans rightPlaces, fun place => ?_, fun inner outer => ?_⟩
  · rw [Equiv.trans_apply, rightSpans, leftSpans]
  · rw [Equiv.trans_apply, Equiv.trans_apply, rightInside, leftInside]

/-- A bijection of the places that keeps spans and insideness makes nestings alike. -/
theorem alike_of_bijective {first second : Nesting} (places : first.Place → second.Place)
    (bijective : Function.Bijective places)
    (spans : ∀ place, second.span (places place) = first.span place)
    (inside : ∀ inner outer,
      second.Inside (places inner) (places outer) ↔ first.Inside inner outer) :
    first.Alike second :=
  ⟨Equiv.ofBijective places bijective, spans, inside⟩

/-- The nesting without places. -/
def empty : Nesting := ⟨Empty, nofun, nofun⟩

/-- Two nestings side by side: no place of one is inside a place of the other. -/
def beside (first second : Nesting) : Nesting where
  Place := first.Place ⊕ second.Place
  span := Sum.elim first.span second.span
  Inside
    | .inl inner, .inl outer => first.Inside inner outer
    | .inr inner, .inr outer => second.Inside inner outer
    | _, _ => False

/-- A nesting inside a new place with a span. -/
def under (span : Span) (nesting : Nesting) : Nesting where
  Place := Option nesting.Place
  span
    | none => span
    | some place => nesting.span place
  Inside
    | some inner, some outer => nesting.Inside inner outer
    | some _, none => True
    | none, _ => False

/-- Nestings that are alike side by side. -/
theorem Alike.beside {first second third fourth : Nesting} (left : first.Alike second)
    (right : third.Alike fourth) : (first.beside third).Alike (second.beside fourth) := by
  obtain ⟨leftPlaces, leftSpans, leftInside⟩ := left
  obtain ⟨rightPlaces, rightSpans, rightInside⟩ := right
  refine ⟨Equiv.sumCongr leftPlaces rightPlaces, ?_, ?_⟩
  · intro place
    cases place with
    | inl place => exact leftSpans place
    | inr place => exact rightSpans place
  · intro inner outer
    cases inner with
    | inl inner =>
      cases outer with
      | inl outer => exact leftInside inner outer
      | inr outer => exact Iff.rfl
    | inr inner =>
      cases outer with
      | inl outer => exact Iff.rfl
      | inr outer => exact rightInside inner outer

/-- Nestings that are alike under places of one span. -/
theorem Alike.under {first second : Nesting} (span : Span) (alike : first.Alike second) :
    (first.under span).Alike (second.under span) := by
  obtain ⟨places, spans, inside⟩ := alike
  refine ⟨Equiv.optionCongr places, ?_, ?_⟩
  · intro place
    cases place with
    | none => rfl
    | some place => exact spans place
  · intro inner outer
    cases inner with
    | none => cases outer <;> exact Iff.rfl
    | some inner =>
      cases outer with
      | none => exact Iff.rfl
      | some outer => exact inside inner outer

/-- The order of nestings side by side does not matter. -/
theorem beside_comm (first second : Nesting) :
    (first.beside second).Alike (second.beside first) := by
  refine ⟨Equiv.sumComm _ _, ?_, ?_⟩
  · intro place
    cases place <;> rfl
  · intro inner outer
    cases inner <;> cases outer <;> exact Iff.rfl

/-- The grouping of nestings side by side does not matter. -/
theorem beside_assoc (first second third : Nesting) :
    ((first.beside second).beside third).Alike (first.beside (second.beside third)) := by
  refine ⟨Equiv.sumAssoc _ _ _, ?_, ?_⟩
  · intro place
    rcases place with (place | place) | place <;> rfl
  · intro inner outer
    rcases inner with (inner | inner) | inner <;>
      rcases outer with (outer | outer) | outer <;> exact Iff.rfl

/-- The nesting without places adds nothing on the left. -/
theorem empty_beside (nesting : Nesting) : (empty.beside nesting).Alike nesting := by
  refine ⟨Equiv.emptySum Empty _, ?_, ?_⟩
  · intro place
    cases place with
    | inl nowhere => exact nowhere.elim
    | inr place => rfl
  · intro inner outer
    cases inner with
    | inl nowhere => exact nowhere.elim
    | inr inner =>
      cases outer with
      | inl nowhere => exact nowhere.elim
      | inr outer => exact Iff.rfl

/-- The nesting without places adds nothing on the right. -/
theorem beside_empty (nesting : Nesting) : (nesting.beside empty).Alike nesting :=
  (beside_comm nesting empty).trans (empty_beside nesting)

/-- The paths that satisfy a condition, with spans. -/
def ofPaths (Holds : List Nat → Prop) (span : List Nat → Span) : Nesting where
  Place := { path : List Nat // Holds path }
  span place := span place.1
  Inside inner outer := Path.Inside inner.1 outer.1

variable {Holds Other : List Nat → Prop} {span otherSpan : List Nat → Span}

/-- Nestings of paths are alike when the paths correspond one to one. -/
theorem alike_ofPaths_iff : (ofPaths Holds span).Alike (ofPaths Other otherSpan) ↔
    ∃ places : { path : List Nat // Holds path } ≃ { path : List Nat // Other path },
      (∀ place, otherSpan (places place).1 = span place.1) ∧
      ∀ inner outer,
        Path.Inside (places inner).1 (places outer).1 ↔ Path.Inside inner.1 outer.1 := Iff.rfl

/-- The same paths with the same spans make nestings that are alike. -/
theorem ofPaths_congr (same : ∀ path, Holds path ↔ Other path)
    (spans : ∀ path, Holds path → otherSpan path = span path) :
    (ofPaths Holds span).Alike (ofPaths Other otherSpan) :=
  ⟨Equiv.subtypeEquivRight same, fun place => spans place.1 place.2, fun _ _ => Iff.rfl⟩

/-- Without paths there are no places. -/
theorem ofPaths_empty (none : ∀ path, ¬ Holds path) : (ofPaths Holds span).Alike empty := by
  refine ⟨⟨fun place => (none _ place.2).elim, nofun, ?_, nofun⟩, ?_, ?_⟩
  · exact fun place => (none _ place.2).elim
  · exact fun place => (none _ place.2).elim
  · exact fun place => (none _ place.2).elim

/-- A path through the first tree or a later one, as a path. -/
def joinPaths (Holds : List Nat → Prop) :
    { path : List Nat // Holds (0 :: path) } ⊕
      { path : List Nat // path ≠ [] ∧ Holds (Path.shift path) } → { path : List Nat // Holds path }
  | .inl place => ⟨0 :: place.1, place.2⟩
  | .inr place => ⟨Path.shift place.1, place.2.2⟩

/-- Nonempty paths go through the first tree or through a later one, and not both. -/
theorem joinPaths_bijective (start : ¬ Holds []) : Function.Bijective (joinPaths Holds) := by
  constructor
  · intro first second same
    have paths := congrArg Subtype.val same
    cases first with
    | inl left =>
      cases second with
      | inl right =>
        have tails : left.1 = right.1 := List.tail_eq_of_cons_eq paths
        rw [Subtype.ext tails]
      | inr right =>
        have apart : 0 :: left.1 ≠ Path.shift right.1 := Path.cons_zero_ne_shift left.1 right.2.1
        exact absurd paths apart
    | inr left =>
      cases second with
      | inl right =>
        have apart : 0 :: right.1 ≠ Path.shift left.1 := Path.cons_zero_ne_shift right.1 left.2.1
        exact absurd paths.symm apart
      | inr right =>
        have tails : left.1 = right.1 := Path.shift_injective paths
        rw [Subtype.ext tails]
  · intro place
    match place with
    | ⟨[], held⟩ => exact absurd held start
    | ⟨0 :: path, held⟩ => exact ⟨.inl ⟨path, held⟩, rfl⟩
    | ⟨(position + 1) :: path, held⟩ =>
      exact ⟨.inr ⟨position :: path, List.cons_ne_nil _ _, held⟩, rfl⟩

/-- Nonempty paths are divided into those through the first tree and those through a later
one. -/
theorem ofPaths_divide (start : ¬ Holds []) :
    (ofPaths Holds span).Alike
      ((ofPaths (fun path => Holds (0 :: path)) fun path => span (0 :: path)).beside
        (ofPaths (fun path => path ≠ [] ∧ Holds (Path.shift path))
          fun path => span (Path.shift path))) := by
  apply Alike.symm
  refine alike_of_bijective (joinPaths Holds) (joinPaths_bijective start) ?_ ?_
  · intro place
    cases place <;> rfl
  · intro inner outer
    cases inner with
    | inl inner =>
      cases outer with
      | inl outer => exact Path.cons_inside_cons_iff
      | inr outer => exact iff_of_false (Path.not_cons_zero_inside_shift outer.2.1) id
    | inr inner =>
      cases outer with
      | inl outer => exact iff_of_false (Path.not_shift_inside_cons_zero inner.2.1) id
      | inr outer => exact Path.shift_inside_shift_iff inner.2.1 outer.2.1

/-- When the empty path is among the paths, all others lead to places inside its place. -/
theorem ofPaths_start (start : Holds []) :
    (ofPaths Holds span).Alike
      ((ofPaths (fun path => path ≠ [] ∧ Holds path) span).under (span [])) := by
  apply Alike.symm
  refine alike_of_bijective (fun
    | none => ⟨[], start⟩
    | some place => ⟨place.1, place.2.2⟩) ⟨?_, ?_⟩ ?_ ?_
  · intro first second same
    have paths := congrArg Subtype.val same
    cases first with
    | none =>
      cases second with
      | none => rfl
      | some right => exact absurd paths.symm right.2.1
    | some left =>
      cases second with
      | none => exact absurd paths left.2.1
      | some right =>
        have steps : left.1 = right.1 := paths
        rw [Subtype.ext steps]
  · intro place
    by_cases leads : place.1 = []
    · exact ⟨none, Subtype.ext leads.symm⟩
    · exact ⟨some ⟨place.1, leads, place.2⟩, rfl⟩
  · intro place
    cases place <;> rfl
  · intro inner outer
    cases inner with
    | none => cases outer <;> exact iff_of_false (Path.not_nil_inside _) id
    | some inner =>
      cases outer with
      | none => exact iff_of_true (Path.inside_nil_iff.mpr inner.2.1) trivial
      | some outer => exact Iff.rfl

end Nesting

end KotlinLint
