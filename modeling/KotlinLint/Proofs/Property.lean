import KotlinLint.Declaration

/-!
# The first property of a name

The properties of a class are declared in its body, or by those parameters of its constructor that
have a keyword. Of several properties with one name the first decides, and one of the body is
before those of the constructor (`ClassDeclaration.FirstProperty`). This is the property that a
search by name finds (`ClassDeclaration.firstProperty_iff`).
-/

namespace KotlinLint.ClassDeclaration

/-- Whether annotations are those of the first property of a class that has a name. -/
inductive FirstProperty (declaration : ClassDeclaration) (name : String) :
    List (Placed AnnotationEntry) → Prop where
  /-- The property is in the body, and none before it there has the name. -/
  | member {before after : List Declaration} {property : PropertyDeclaration} :
      declaration.members = before ++ .ofProperty property :: after → property.name = name →
      (∀ earlier, .ofProperty earlier ∈ before → earlier.name ≠ name) →
      FirstProperty declaration name property.annotations
  /-- The property is in the constructor, and neither one of the body nor one before it in the
  constructor has the name. -/
  | parameter {before after : List Parameter} {parameter : Parameter} :
      (∀ property, .ofProperty property ∈ declaration.members → property.name ≠ name) →
      declaration.parameters = before ++ parameter :: after → parameter.binding.isSome →
      parameter.name = name →
      (∀ earlier ∈ before, earlier.binding.isSome → earlier.name ≠ name) →
      FirstProperty declaration name parameter.annotations

section FirstProperty

variable (declaration : ClassDeclaration) (name : String)

/-- The search for a property looks at those of the body before those of the constructor. -/
theorem findProperty?_eq_or : declaration.findProperty? name =
    ((declaration.memberProperties.find? (·.name = name)).map .member).or
      ((declaration.propertyParameters.find? (·.name = name)).map .parameter) := by
  rw [findProperty?, properties, List.find?_append, List.find?_map, List.find?_map]
  rfl

/-- The search in the body finds the first property of a name there. -/
theorem memberProperties_find?_eq_some_iff (property : PropertyDeclaration) :
    declaration.memberProperties.find? (·.name = name) = some property ↔
      ∃ before after, declaration.members = before ++ .ofProperty property :: after ∧
        property.name = name ∧ ∀ earlier, .ofProperty earlier ∈ before → earlier.name ≠ name := by
  have isProperty : ∀ member : Declaration,
      member.property? = some property ↔ member = .ofProperty property := by
    intro member
    cases member <;> simp [Declaration.property?]
  rw [memberProperties, List.find?_filterMap, Option.bind_eq_some_iff]
  simp only [List.find?_eq_some_iff_append, isProperty]
  constructor
  · intro found
    obtain ⟨_, ⟨named, before, after, split, others⟩, rfl⟩ := found
    refine ⟨before, after, split, by simpa [Declaration.property?] using named, ?_⟩
    intro earlier listed
    simpa [Declaration.property?] using others _ listed
  · intro first
    obtain ⟨before, after, split, named, others⟩ := first
    refine ⟨_, ⟨by simpa [Declaration.property?] using named, before, after, split, ?_⟩, rfl⟩
    intro member listed
    cases member with
    | ofProperty earlier => simpa [Declaration.property?] using others earlier listed
    | ofClass head members => rfl
    | ofObject head members => rfl
    | ofFunction function => rfl

/-- The search in the body finds nothing when no property there has the name. -/
theorem memberProperties_find?_eq_none_iff :
    declaration.memberProperties.find? (·.name = name) = none ↔
      ∀ property, .ofProperty property ∈ declaration.members → property.name ≠ name := by
  rw [List.find?_eq_none]
  simp only [memberProperties, List.mem_filterMap, decide_eq_true_eq]
  constructor
  · intro none property listed
    exact none property ⟨_, listed, rfl⟩
  · intro none property declared
    obtain ⟨member, listed, isProperty⟩ := declared
    cases member with
    | ofProperty own =>
      cases isProperty
      exact none property listed
    | ofClass head members => cases isProperty
    | ofObject head members => cases isProperty
    | ofFunction function => cases isProperty

/-- The search in the constructor finds the first parameter of a name that is a property. -/
theorem propertyParameters_find?_eq_some_iff (parameter : Parameter) :
    declaration.propertyParameters.find? (·.name = name) = some parameter ↔
      ∃ before after, declaration.parameters = before ++ parameter :: after ∧
        parameter.binding.isSome ∧ parameter.name = name ∧
        ∀ earlier ∈ before, earlier.binding.isSome → earlier.name ≠ name := by
  rw [propertyParameters, List.find?_filter, List.find?_eq_some_iff_append]
  constructor
  · intro found
    obtain ⟨named, before, after, split, others⟩ := found
    obtain ⟨binds, named⟩ : parameter.binding.isSome ∧ parameter.name = name := by simpa using named
    refine ⟨before, after, split, binds, named, ?_⟩
    intro earlier listed declares same
    simpa [declares, same] using others earlier listed
  · intro first
    obtain ⟨before, after, split, binds, named, others⟩ := first
    refine ⟨by simp [binds, named], before, after, split, ?_⟩
    intro earlier listed
    by_cases declares : earlier.binding.isSome = true
    · simp [declares, others earlier listed declares]
    · simp [declares]

/-- The search for a property finds the first of its name. -/
theorem firstProperty_iff (annotations : List (Placed AnnotationEntry)) :
    declaration.FirstProperty name annotations ↔
      ∃ property, declaration.findProperty? name = some property ∧
        property.annotations = annotations := by
  rw [findProperty?_eq_or]
  constructor
  · intro first
    cases first with
    | @member before after property split named others =>
      have found := (declaration.memberProperties_find?_eq_some_iff name property).mpr
        ⟨before, after, split, named, others⟩
      exact ⟨.member property, by rw [found]; rfl, rfl⟩
    | @parameter before after parameter none split binds named others =>
      have missing := (declaration.memberProperties_find?_eq_none_iff name).mpr none
      have found := (declaration.propertyParameters_find?_eq_some_iff name parameter).mpr
        ⟨before, after, split, binds, named, others⟩
      exact ⟨.parameter parameter, by rw [missing, found]; rfl, rfl⟩
  · intro found
    obtain ⟨property, found, rfl⟩ := found
    cases search : declaration.memberProperties.find? (·.name = name) with
    | some own =>
      rw [search] at found
      obtain rfl := Option.some.inj found
      obtain ⟨before, after, split, named, others⟩ :=
        (declaration.memberProperties_find?_eq_some_iff name own).mp search
      exact .member split named others
    | none =>
      have none := (declaration.memberProperties_find?_eq_none_iff name).mp search
      rw [search, Option.map_none, Option.none_or] at found
      obtain ⟨parameter, search, rfl⟩ := Option.map_eq_some_iff.mp found
      obtain ⟨before, after, split, binds, named, others⟩ :=
        (declaration.propertyParameters_find?_eq_some_iff name parameter).mp search
      exact .parameter none split binds named others

end FirstProperty

end KotlinLint.ClassDeclaration
