import KotlinLint.Proofs.DiscriminatorClash.Offense
import KotlinLint.Proofs.Keys
import Mathlib.Data.List.Nodup

/-!
# Serial names

A property is written under its serial name, which is the string of its `@SerialName` if it
carries one and its own name otherwise (`PropertyOrigin.serialName`). A class whose property is
written under the discriminator clashes with it, but the rule does not recognise every such
property: annotations are compared by their arguments, so the string has to stand without the name
of its parameter, and a property of the body counts only under its own name (`RecognisedAs`). For
classes whose properties have distinct names and plain serial names this is all that the rule
tests (`hasCollision_iff_recognised`).
-/

namespace KotlinLint

/-- The annotations that name a property for serialization; one with a use site does not. -/
def PropertyOrigin.namings (property : PropertyOrigin) : List AnnotationEntry :=
  (property.annotations.map (·.value)).filter fun entry =>
    entry.name = "SerialName" && entry.useSite.isNone

/-- The name under which a property is written. -/
def PropertyOrigin.serialName (property : PropertyOrigin) : String :=
  (property.namings.head?.bind (·.stringArgument)).getD property.name

namespace DiscriminatorClash

/-- Whether a property has at most one annotation that names it for serialization, with a string
as its only argument. -/
inductive PlainlyNamed (property : PropertyOrigin) : Prop where
  /-- No annotation names the property. -/
  | own : property.namings = [] → PlainlyNamed property
  /-- The string stands alone. -/
  | positional {text : String} :
      property.namings =
        [{ useSite := none, name := "SerialName",
           arguments := [{ name := none, value := .text text }] }] →
      PlainlyNamed property
  /-- The string stands with the name of its parameter. -/
  | named {text : String} :
      property.namings =
        [{ useSite := none, name := "SerialName",
           arguments := [{ name := some "value", value := .text text }] }] →
      PlainlyNamed property

/-- Whether the properties of a class have distinct names and plain serial names. -/
structure HasPlainNames (candidate : ClassDeclaration) : Prop where
  /-- No two properties have one name. -/
  distinct : (candidate.properties.map (·.name)).Nodup
  /-- Each property has a plain serial name. -/
  plain : ∀ property ∈ candidate.properties, PlainlyNamed property

/-- Whether a property is written under a key in a way that the rule recognises. -/
structure RecognisedAs (key : String) (property : PropertyOrigin) : Prop where
  /-- The property is written under the key. -/
  written : property.serialName = key
  /-- The string that names the property, if one does, stands without the name of its
  parameter. -/
  positional : ∀ entry ∈ property.namings, ∀ argument ∈ entry.arguments, argument.name = none
  /-- The property is declared in the constructor or has the key as its own name. -/
  located : (∃ parameter, property = .parameter parameter) ∨ property.name = key

section Property

variable {property : PropertyOrigin}

/-- A property without an annotation that names it is written under its own name. -/
theorem serialName_of_own (own : property.namings = []) :
    property.serialName = property.name := by
  rw [PropertyOrigin.serialName, own]
  rfl

/-- A property is written under the string of the annotation that names it. -/
theorem serialName_of_written {argumentName : Option String} {text : String}
    (written : property.namings =
      [{ useSite := none, name := "SerialName",
         arguments := [{ name := argumentName, value := .text text }] }]) :
    property.serialName = text := by
  rw [PropertyOrigin.serialName, written]
  rfl

/-- The first annotation that names a property decides whether the property has another name. -/
theorem hasOtherName_iff (discriminator : String) :
    HasOtherName discriminator property.annotations ↔ ∃ entry, property.namings.head? = some entry ∧
      entry.arguments ≠ [{ name := none, value := .text discriminator }] := by
  have first : property.namings.head? = (property.annotations.find? fun mark =>
      mark.value.name = "SerialName" && mark.value.useSite.isNone).map (·.value) := by
    rw [PropertyOrigin.namings, List.head?_filter, List.find?_map]
    rfl
  rw [HasOtherName, first]
  constructor
  · intro renamed
    obtain ⟨mark, found, other⟩ := renamed
    exact ⟨mark.value, by rw [found, Option.map_some], other⟩
  · intro renamed
    obtain ⟨entry, found, other⟩ := renamed
    obtain ⟨mark, isMark, rfl⟩ := Option.map_eq_some_iff.mp found
    exact ⟨mark, isMark, other⟩

/-- The rule's annotation is carried exactly when it is among those that name the property. -/
theorem mem_namings_iff (discriminator : String) :
    serialNameOf discriminator ∈ property.namings ↔
      ∃ mark ∈ property.annotations, mark.value = serialNameOf discriminator := by
  rw [PropertyOrigin.namings, List.mem_filter, List.mem_map]
  exact and_iff_left rfl

/-- A plainly named property that carries the rule's annotation has no other that names it. -/
theorem PlainlyNamed.eq_of_mem {entry : AnnotationEntry} (plain : PlainlyNamed property)
    (listed : entry ∈ property.namings) : property.namings = [entry] := by
  cases plain with
  | own none =>
    rw [none] at listed
    cases listed
  | positional only =>
    rw [only, List.mem_singleton] at listed
    rw [only, listed]
  | named only =>
    rw [only, List.mem_singleton] at listed
    rw [only, listed]

/-- A property that carries the rule's annotation alone is written under the discriminator, and
the string stands without the name of its parameter. -/
theorem recognisedAs_of_alias {discriminator : String}
    (only : property.namings = [serialNameOf discriminator])
    (located : (∃ parameter, property = .parameter parameter) ∨ property.name = discriminator) :
    RecognisedAs discriminator property := by
  refine ⟨serialName_of_written only, ?_, located⟩
  intro entry isNaming argument isArgument
  rw [only, List.mem_singleton] at isNaming
  rw [isNaming, serialNameOf, List.mem_singleton] at isArgument
  rw [isArgument]

/-- A plainly named property with the name of the discriminator and no other name for
serialization is recognised. -/
theorem recognisedAs_of_not_hasOtherName {discriminator : String} (plain : PlainlyNamed property)
    (same : property.name = discriminator)
    (kept : ¬ HasOtherName discriminator property.annotations) :
    RecognisedAs discriminator property := by
  rw [hasOtherName_iff] at kept
  cases plain with
  | own none =>
    refine ⟨(serialName_of_own none).trans same, ?_, .inr same⟩
    intro entry isNaming
    rw [none] at isNaming
    cases isNaming
  | @positional text only =>
    by_cases isDiscriminator : text = discriminator
    · rw [isDiscriminator] at only
      exact recognisedAs_of_alias only (.inr same)
    · refine absurd ⟨_, by rw [only]; rfl, ?_⟩ kept
      simp [isDiscriminator]
  | named only =>
    refine absurd ⟨_, by rw [only]; rfl, ?_⟩ kept
    simp

/-- A property that is recognised either carries the rule's annotation alone or none that names
it, and then it has the name of the discriminator. -/
theorem RecognisedAs.alias_or_own {discriminator : String}
    (recognised : RecognisedAs discriminator property) (plain : PlainlyNamed property) :
    property.namings = [serialNameOf discriminator] ∨
      property.namings = [] ∧ property.name = discriminator := by
  cases plain with
  | own none =>
    rw [← serialName_of_own none]
    exact .inr ⟨none, recognised.written⟩
  | positional only =>
    rw [← serialName_of_written only, recognised.written] at only
    exact .inl only
  | named only =>
    have unnamed := recognised.positional _ (by rw [only]; exact List.mem_singleton_self _) _
      (List.mem_singleton_self _)
    cases unnamed

end Property

/-- Among properties with distinct names the search by name finds each of them. -/
theorem find?_name_of_distinct {properties : List PropertyOrigin} {property : PropertyOrigin}
    (distinct : (properties.map (·.name)).Nodup) (listed : property ∈ properties) :
    properties.find? (·.name = property.name) = some property :=
  find?_key_of_distinct distinct listed

/-- In a file with the import of the annotation a class with plain names collides with a
discriminator exactly when one of its properties is written under it and is recognised. -/
theorem hasCollision_iff_recognised {file : File} {candidate : ClassDeclaration}
    (imported : file.Imports ["kotlinx", "serialization", "SerialName"])
    (names : HasPlainNames candidate) (discriminator : String) :
    hasCollision file discriminator candidate = true ↔
      ∃ property ∈ candidate.properties, RecognisedAs discriminator property := by
  rw [hasCollision_iff]
  constructor
  · intro collides
    cases collides with
    | @aliased parameter isParameter binds carried _ =>
      have listed : PropertyOrigin.parameter parameter ∈ candidate.properties :=
        List.mem_append_right _ (List.mem_map_of_mem (List.mem_filter.mpr ⟨isParameter, binds⟩))
      have isNaming : serialNameOf discriminator ∈ (PropertyOrigin.parameter parameter).namings :=
        (mem_namings_iff discriminator).mpr carried
      have only := (names.plain _ listed).eq_of_mem isNaming
      exact ⟨_, listed, recognisedAs_of_alias only (.inl ⟨parameter, rfl⟩)⟩
    | @named annotations first kept =>
      obtain ⟨property, found, rfl⟩ := (candidate.firstProperty_iff discriminator _).mp first
      have listed := List.mem_of_find?_eq_some found
      have same := List.find?_some found
      rw [decide_eq_true_eq] at same
      have keepsName : ¬ HasOtherName discriminator property.annotations :=
        fun other => kept ⟨other, imported⟩
      exact ⟨property, listed,
        recognisedAs_of_not_hasOtherName (names.plain property listed) same keepsName⟩
  · intro recognised
    obtain ⟨property, listed, recognised⟩ := recognised
    have found := find?_name_of_distinct names.distinct listed
    rcases recognised.alias_or_own (names.plain property listed) with only | ⟨own, same⟩
    · rcases recognised.located with ⟨parameter, rfl⟩ | same
      · have carried := (mem_namings_iff discriminator).mp (only ▸ List.mem_singleton_self _)
        rcases List.mem_append.mp listed with isMember | isParameter
        · obtain ⟨_, _, same⟩ := List.mem_map.mp isMember
          cases same
        · obtain ⟨declared, isDeclared, same⟩ := List.mem_map.mp isParameter
          cases same
          obtain ⟨isDeclared, binds⟩ := List.mem_filter.mp isDeclared
          exact .aliased isDeclared binds carried imported
      · rw [same] at found
        have decides := (candidate.firstProperty_iff discriminator _).mpr ⟨property, found, rfl⟩
        refine .named decides fun other => ?_
        obtain ⟨entry, first, differs⟩ := (hasOtherName_iff discriminator).mp other.1
        rw [only, List.head?_cons, Option.some.injEq] at first
        exact differs (first ▸ rfl)
    · rw [same] at found
      have decides := (candidate.firstProperty_iff discriminator _).mpr ⟨property, found, rfl⟩
      refine .named decides fun other => ?_
      obtain ⟨entry, first, _⟩ := (hasOtherName_iff discriminator).mp other.1
      rw [own] at first
      cases first

/-- An annotation that names a property for serialization. -/
def naming (argumentName : Option String) (text : String) : Placed AnnotationEntry where
  value := ⟨none, "SerialName", [⟨argumentName, .text text⟩]⟩

/-- A class whose body property is written under a key that its constructor property has as its
own name, and the other way round. -/
def swapped : ClassDeclaration where
  name := "Swapped"
  nameSpan := {}
  span := {}
  kind := .plain
  modifiers := []
  annotations := [{ value := .marker "Serializable" }]
  supertypes := [{ value := ⟨["Event"]⟩ }]
  parameters :=
    [{ name := "kind", span := {}, binding := some .val, annotations := [naming none "type"] }]
  members :=
    [.ofProperty { name := "type", span := {}, annotations := [naming (some "value") "kind"] }]

/-- A file that imports the annotations of serializable classes and of serial names. -/
def namesFile : File where
  path := "Events.kt"
  imports := [{ value := .plain ["kotlinx", "serialization", "SerialName"] },
    { value := .plain ["kotlinx", "serialization", "Serializable"] }]

/-- The import of serial names is in the file. -/
theorem namesFile_imports : namesFile.Imports ["kotlinx", "serialization", "SerialName"] :=
  ⟨_, List.mem_cons_self, rfl⟩

/-- A constructor property collides by its serial name although the property with the name of
the discriminator is written under another. -/
theorem swapped_collides :
    namesFile.Imports ["kotlinx", "serialization", "SerialName"] ∧ HasPlainNames swapped ∧
      hasCollision namesFile "type" swapped = true := by
  have names : HasPlainNames swapped := by
    refine ⟨by decide, ?_⟩
    intro property listed
    rcases List.mem_cons.mp listed with rfl | listed
    · exact .named rfl
    · rw [List.mem_singleton.mp listed]
      exact .positional rfl
  have listed : PropertyOrigin.parameter
      { name := "kind", span := {}, binding := some .val, annotations := [naming none "type"] } ∈
        swapped.properties := List.mem_cons_of_mem _ List.mem_cons_self
  have recognised := (hasCollision_iff_recognised namesFile_imports names "type").mpr
    ⟨_, listed, recognisedAs_of_alias rfl (.inl ⟨_, rfl⟩)⟩
  exact ⟨namesFile_imports, names, recognised⟩

/-- A class with a body property that is written under `type`. -/
def opened : ClassDeclaration where
  name := "Opened"
  nameSpan := ⟨139, 145, 4, 21⟩
  span := {}
  kind := .plain
  modifiers := []
  annotations := [{ value := .marker "Serializable" }]
  supertypes := [{ value := ⟨["Event"]⟩ }]
  parameters := []
  members := [.ofProperty { name := "kind", span := {}, annotations := [naming none "type"] }]

/-- A class with a constructor property that is written under `type` by an argument with the name
of its parameter. -/
def closed : ClassDeclaration where
  name := "Closed"
  nameSpan := ⟨218, 224, 5, 21⟩
  span := {}
  kind := .plain
  modifiers := []
  annotations := [{ value := .marker "Serializable" }]
  supertypes := [{ value := ⟨["Event"]⟩ }]
  parameters :=
    [{ name := "kind", span := {}, binding := some .val,
       annotations := [naming (some "value") "type"] }]
  members := []

/-- Properties of both classes are written under the discriminator, and neither class
collides. -/
theorem serialNames_not_recognised :
    namesFile.Imports ["kotlinx", "serialization", "SerialName"] ∧
      (HasPlainNames opened ∧ (∃ property ∈ opened.properties, property.serialName = "type") ∧
        hasCollision namesFile "type" opened = false) ∧
      (HasPlainNames closed ∧ (∃ property ∈ closed.properties, property.serialName = "type") ∧
        hasCollision namesFile "type" closed = false) := by
  refine ⟨namesFile_imports, ⟨⟨by decide, ?_⟩, ⟨_, List.mem_cons_self, rfl⟩, by decide⟩,
    ⟨⟨by decide, ?_⟩, ⟨_, List.mem_cons_self, rfl⟩, by decide⟩⟩
  · intro property listed
    rw [List.mem_singleton.mp listed]
    exact .positional rfl
  · intro property listed
    rw [List.mem_singleton.mp listed]
    exact .named rfl

end DiscriminatorClash

end KotlinLint
