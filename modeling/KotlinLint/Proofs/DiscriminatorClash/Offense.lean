import KotlinLint.Proofs.Property
import KotlinLint.Proofs.Query
import KotlinLint.Rules.DiscriminatorClash
import Mathlib.Data.List.Basic

/-!
# Classes with a property under the discriminator

What the rule looks for in a single class is described without its searches: which classes are
the roots of serializable hierarchies (`IsRoot`), which classes have a property that is written
under the discriminator (`Collides`), and which of these are findings below a root (`Offends`).
The tests of the rule decide just this.
-/

namespace KotlinLint.DiscriminatorClash

/-- Whether a class carries the annotation of serializable classes. -/
def IsSerializable (declaration : ClassDeclaration) : Prop :=
  Carries declaration.annotations "@Serializable"

/-- Whether a class is the root of a serializable hierarchy. -/
structure IsRoot (declaration : ClassDeclaration) : Prop where
  /-- The class is sealed. -/
  isSealed : "sealed" ∈ declaration.modifiers
  /-- The class is serializable. -/
  serializable : IsSerializable declaration

/-- Whether the first of some annotations that names a property for serialization has arguments
other than the discriminator. -/
def HasOtherName (discriminator : String) (annotations : List (Placed AnnotationEntry)) : Prop :=
  ∃ mark, annotations.find? (fun mark =>
      mark.value.name = "SerialName" && mark.value.useSite.isNone) = some mark ∧
    mark.value.arguments ≠ [{ name := none, value := .text discriminator }]

/-- Whether a class has a property that is written under the discriminator. -/
inductive Collides (file : File) (discriminator : String) (candidate : ClassDeclaration) :
    Prop where
  /-- A constructor property is named like the discriminator for serialization. -/
  | aliased {parameter : Parameter} : parameter ∈ candidate.parameters →
      parameter.binding.isSome → (∃ mark ∈ parameter.annotations, mark.value =
        { useSite := none
          name := "SerialName"
          arguments := [{ name := none, value := .text discriminator }] }) →
      file.Imports ["kotlinx", "serialization", "SerialName"] →
      Collides file discriminator candidate
  /-- The first property with the name of the discriminator has no other name for
  serialization. -/
  | named {annotations : List (Placed AnnotationEntry)} :
      candidate.FirstProperty discriminator annotations →
      ¬ (HasOtherName discriminator annotations ∧
        file.Imports ["kotlinx", "serialization", "SerialName"]) →
      Collides file discriminator candidate

/-- Whether a class offends when it is below a root. -/
structure Offends (file : File) (discriminator : String) (candidate : ClassDeclaration) :
    Prop where
  /-- The file imports the annotation of serializable classes. -/
  imported : file.Imports ["kotlinx", "serialization", "Serializable"]
  /-- The class is serializable. -/
  serializable : IsSerializable candidate
  /-- A property is written under the discriminator. -/
  collides : Collides file discriminator candidate

/-- The finding for a class of a file. -/
def findingFor (file : File) (discriminator : String) (candidate : ClassDeclaration) : Finding where
  rule := "SerializableDiscriminatorRule"
  severity := .codeSmell
  location :=
    { file := file.path
      line := candidate.nameSpan.line
      column := candidate.nameSpan.column
      offset := candidate.nameSpan.start
      length := candidate.nameSpan.stop - candidate.nameSpan.start }
  message := "Do not name properties in polymorphic serializable classes as a class discriminator: "
    ++ discriminator
  docRef := some
    "https://github.com/Kotlin/kotlinx.serialization/blob/master/docs/polymorphism.md"

section Tests

variable (file : File) (discriminator : String)

/-- The rule's test for the annotation compares with what `@Serializable` writes. -/
theorem isAmong_serializable_iff (declaration : ClassDeclaration) :
    serializable.isAmong declaration.annotations = true ↔ IsSerializable declaration := by
  have written : AnnotationEntry.read "@Serializable" = some serializable := by decide
  exact carries_iff written declaration.annotations

/-- The rule's test for roots looks at the modifiers and the annotations. -/
theorem isPolymorphicRoot_iff (declaration : ClassDeclaration) :
    isPolymorphicRoot declaration = true ↔ IsRoot declaration := by
  have marked := isAmong_serializable_iff declaration
  rw [isPolymorphicRoot, Bool.and_eq_true, marked, ClassDeclaration.isSealed,
    ClassDeclaration.hasModifier, List.contains_iff_mem]
  constructor
  · intro root
    exact ⟨root.1, root.2⟩
  · intro root
    exact ⟨root.isSealed, root.serializable⟩

/-- The rule's test for another serial name compares the arguments, because the annotation it
finds agrees in name and use site. -/
theorem isRenamed_iff (property : PropertyOrigin) :
    isRenamed discriminator property = true ↔
      HasOtherName discriminator property.annotations := by
  rw [isRenamed, Option.any_eq_true, HasOtherName]
  have search : AnnotationEntry.findNamed? property.annotations serialName =
      property.annotations.find? fun mark =>
        mark.value.name = "SerialName" && mark.value.useSite.isNone := rfl
  rw [search]
  have sameUnless : ∀ mark, property.annotations.find? (fun mark =>
      mark.value.name = "SerialName" && mark.value.useSite.isNone) = some mark →
      (decide (mark.value ≠ serialNameOf discriminator) = true ↔
        mark.value.arguments ≠ [{ name := none, value := .text discriminator }]) := by
    intro mark found
    have named := List.find?_some found
    rw [Bool.and_eq_true, decide_eq_true_eq, Option.isNone_iff_eq_none] at named
    obtain ⟨isSerialName, noSite⟩ := named
    rw [decide_eq_true_eq]
    apply not_congr
    obtain ⟨⟨useSite, name, arguments⟩, span⟩ := mark
    rw [serialNameOf, AnnotationEntry.mk.injEq]
    constructor
    · intro same
      exact same.2.2
    · intro same
      exact ⟨noSite, isSerialName, same⟩
  constructor
  · intro renamed
    obtain ⟨mark, found, other⟩ := renamed
    exact ⟨mark, found, (sameUnless mark found).mp other⟩
  · intro renamed
    obtain ⟨mark, found, other⟩ := renamed
    exact ⟨mark, found, (sameUnless mark found).mpr other⟩

/-- The rule's test for collisions finds a property that is written under the discriminator. -/
theorem hasCollision_iff (candidate : ClassDeclaration) :
    hasCollision file discriminator candidate = true ↔
      Collides file discriminator candidate := by
  have imports := file.hasImport_plain_iff ["kotlinx", "serialization", "SerialName"]
  have suppresses : ∀ property : PropertyOrigin,
      (!(isRenamed discriminator property && file.hasImport serialNameImport)) = true ↔
        ¬ (HasOtherName discriminator property.annotations ∧
          file.Imports ["kotlinx", "serialization", "SerialName"]) := by
    intro property
    rw [Bool.not_eq_true', ← Bool.not_eq_true, Bool.and_eq_true, isRenamed_iff, serialNameImport,
      imports]
  rw [hasCollision, Bool.or_eq_true, Bool.and_eq_true, List.any_eq_true, Option.any_eq_true,
    serialNameImport, imports]
  constructor
  · intro collision
    rcases collision with ⟨imported, parameter, listed, carries⟩ | ⟨property, found, other⟩
    · obtain ⟨isParameter, binds⟩ := List.mem_filter.mp listed
      obtain ⟨mark, isMark, same⟩ := List.any_eq_true.mp carries
      exact .aliased isParameter binds ⟨mark, isMark, of_decide_eq_true same⟩ imported
    · have first := (candidate.firstProperty_iff discriminator _).mpr ⟨property, found, rfl⟩
      exact .named first ((suppresses property).mp other)
  · intro collision
    cases collision with
    | @aliased parameter isParameter binds carries imported =>
      obtain ⟨mark, isMark, same⟩ := carries
      refine .inl ⟨imported, parameter, List.mem_filter.mpr ⟨isParameter, binds⟩, ?_⟩
      exact List.any_eq_true.mpr ⟨mark, isMark, decide_eq_true same⟩
    | @named annotations first other =>
      obtain ⟨property, found, rfl⟩ := (candidate.firstProperty_iff discriminator _).mp first
      exact .inr ⟨property, found, (suppresses property).mpr other⟩

/-- Whether a class offends, by the tests of the rule. -/
def isOffender (candidate : ClassDeclaration) : Bool :=
  file.hasImport serializableImport && serializable.isAmong candidate.annotations &&
    hasCollision file discriminator candidate

/-- The tests of the rule find the classes that offend. -/
theorem isOffender_iff (candidate : ClassDeclaration) :
    isOffender file discriminator candidate = true ↔ Offends file discriminator candidate := by
  rw [isOffender, Bool.and_eq_true, Bool.and_eq_true, serializableImport,
    File.hasImport_plain_iff, isAmong_serializable_iff, hasCollision_iff]
  constructor
  · intro tests
    exact ⟨tests.1.1, tests.1.2, tests.2⟩
  · intro offends
    exact ⟨⟨offends.imported, offends.serializable⟩, offends.collides⟩

/-- In a file with the import the findings for the serializable ones of some selected classes are
those for the offenders among them. -/
theorem filterMap_finding?_eq {α : Type} (imported : file.hasImport serializableImport = true)
    (selects : α → Bool) (value : α → ClassDeclaration) (members : List α) :
    ((members.filter fun member =>
        selects member && serializable.isAmong (value member).annotations).map value).filterMap
          (finding? file discriminator) =
      (members.filter fun member =>
        selects member && isOffender file discriminator (value member)).map fun member =>
          findingFor file discriminator (value member) := by
  rw [List.filterMap_map, List.filterMap_filter, ← List.filterMap_eq_map', List.filterMap_filter]
  apply List.filterMap_congr
  intro member _
  rw [isOffender, imported, Bool.true_and, Function.comp_apply, finding?]
  cases selects member <;> cases serializable.isAmong (value member).annotations <;>
    cases hasCollision file discriminator (value member) <;> rfl

end Tests

end KotlinLint.DiscriminatorClash
