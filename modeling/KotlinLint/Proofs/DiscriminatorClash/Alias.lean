import KotlinLint.Proofs.AnnotationEntry.Parts
import KotlinLint.Proofs.Text.SpelledLiteral
import KotlinLint.Rules.DiscriminatorClash

/-!
# Spelled serial names

An annotation of a serial name is read from its literal, however this is spelled, as the annotation
that gives the text the reader takes the literal for (`DiscriminatorClash.read_aliasText`). So it is
the annotation of the text that is spelled, which the rule looks for when the text is the
discriminator, exactly when the reader knows the spellings
(`DiscriminatorClash.read_aliasText_iff`).
-/

namespace KotlinLint

open Text

/-- A spelled literal is read as an argument that is a string. -/
theorem Argument.read_spelledLiteral (spelled : List Quoted.SpelledChar) :
    Argument.read (Quoted.spelledLiteral spelled) =
      ⟨none, .text (String.ofList (Quoted.readAs spelled))⟩ := by
  have unnamed : splitName (Quoted.spelledLiteral spelled) = none := by
    rw [splitName]
    split
    case h_1 => rfl
    case h_2 before after divided =>
      have quoted := Quoted.mem_of_cut_quote divided
      exact if_pos (by simp [quoted])
  rw [Argument.read, unnamed]
  simp only [ArgumentValue.read, Quoted.read_spelledLiteral]

/-- A spelled literal between parentheses is the only argument. -/
theorem Argument.readAll_spelledLiteral (spelled : List Quoted.SpelledChar) :
    Argument.readAll (Quoted.spelledLiteral spelled) =
      [⟨none, .text (String.ofList (Quoted.readAs spelled))⟩] := by
  have tight := (Quoted.isTight_spelledLiteral spelled).trim
  have solid : (Quoted.spelledLiteral spelled).isEmpty = false := rfl
  rw [readAll, (Scanner.Passes.of_spelledLiteral 0 spelled).splitTopLevel, List.map_singleton,
    tight, List.filter_cons_of_pos (by simp [solid]), List.filter_nil, List.map_singleton,
    read_spelledLiteral]

namespace DiscriminatorClash

/-- The annotation of a serial name whose literal is spelled. -/
def aliasText (spelled : List Quoted.SpelledChar) : String :=
  "@SerialName(" ++ String.ofList (Quoted.spelledLiteral spelled) ++ ")"

/-- The annotation of a spelled serial name is read as that of the name the reader takes the literal
for. -/
theorem read_aliasText (spelled : List Quoted.SpelledChar) :
    AnnotationEntry.read (aliasText spelled) =
      some (serialNameOf (String.ofList (Quoted.readAs spelled))) := by
  let parts : AnnotationEntry.Parts :=
    ⟨none, serialName.toList, some (Quoted.spelledLiteral spelled)⟩
  have nameChars : ∀ c ∈ serialName.toList, AnnotationEntry.isNameChar c = true :=
    List.all_eq_true.mp rfl
  have solid : squeeze serialName.toList ≠ [] := by decide
  have readable : parts.IsReadable := ⟨nofun, fun c listed => .inr (nameChars c listed), solid⟩
  have written : (aliasText spelled).toList = parts.write := by
    simp [aliasText, parts, AnnotationEntry.Parts.write, AnnotationEntry.Parts.head,
      AnnotationEntry.Parts.writeList, serialName]
  have trimmed : trim (aliasText spelled).toList = parts.write := by
    rw [written]
    exact (AnnotationEntry.Parts.isTight_write_of_list rfl).trim
  have squeezed : squeeze serialName.toList = serialName.toList := by decide
  rw [AnnotationEntry.read, AnnotationEntry.Parts.readChars_of_write readable trimmed]
  simp [parts, AnnotationEntry.Parts.entry, serialNameOf, squeezed,
    Argument.readAll_spelledLiteral]

/-- Annotations of serial names are the same exactly when the names are. -/
theorem serialNameOf_inj {name other : String} :
    serialNameOf name = serialNameOf other ↔ name = other := by
  simp [serialNameOf]

/-- Every serial name has a spelling that the reader knows. However the name is spelled, its
annotation is the one that the rule looks for when the name is the discriminator exactly when the
reader knows all its spellings, and it is read like one that is spelled in known ways exactly
then. -/
theorem read_aliasText_iff (name : String) :
    (∃ spelled, Quoted.content spelled = name.toList ∧ Quoted.IsKnown spelled) ∧
      ∀ spelled, Quoted.content spelled = name.toList →
        AnnotationEntry.read (aliasText spelled) =
          some (serialNameOf (String.ofList (Quoted.readAs spelled))) ∧
        (AnnotationEntry.read (aliasText spelled) = some (serialNameOf name) ↔
          Quoted.IsKnown spelled) ∧
        ∀ other, Quoted.content other = name.toList → Quoted.IsKnown other →
          (AnnotationEntry.read (aliasText spelled) = AnnotationEntry.read (aliasText other) ↔
            Quoted.IsKnown spelled) := by
  refine ⟨Quoted.exists_spelled name.toList, fun spelled same => ?_⟩
  have denoted : ∀ other, Quoted.content other = name.toList →
      (AnnotationEntry.read (aliasText other) = some (serialNameOf name) ↔
        Quoted.IsKnown other) := by
    intro other otherSame
    have named : name = String.ofList (Quoted.content other) := by
      rw [otherSame, String.ofList_toList]
    rw [read_aliasText, Option.some_inj, serialNameOf_inj, named, String.ofList_inj,
      Quoted.readAs_eq_iff]
  refine ⟨read_aliasText spelled, denoted spelled same, ?_⟩
  intro other otherSame known
  rw [(denoted other otherSame).mpr known, denoted spelled same]

/-- A tab, a quote and a dollar sign, each by its mark. -/
def markedTab : List Quoted.SpelledChar :=
  [⟨'\t', .escape 't', by decide⟩, ⟨'\'', .escape '\'', by decide⟩, ⟨'$', .escape '$', by decide⟩]

/-- The same text, with only the dollar sign by its mark. -/
def plainTab : List Quoted.SpelledChar :=
  [⟨'\t', .itself '\t', by decide⟩, ⟨'\'', .itself '\'', by decide⟩, ⟨'$', .escape '$', by decide⟩]

/-- Known spellings of one discriminator are both read as the annotation that the rule looks for. -/
theorem markedTab_read : Quoted.IsKnown markedTab ∧ Quoted.IsKnown plainTab ∧
    AnnotationEntry.read (aliasText markedTab) = some (serialNameOf "\t'$") ∧
    AnnotationEntry.read (aliasText markedTab) = AnnotationEntry.read (aliasText plainTab) := by
  have known : Quoted.IsKnown markedTab := by decide
  have plainKnown : Quoted.IsKnown plainTab := by decide
  have denoted : Quoted.content markedTab = "\t'$".toList := by decide
  have plainDenoted : Quoted.content plainTab = "\t'$".toList := by decide
  obtain ⟨_, named, alike⟩ := (read_aliasText_iff "\t'$").2 markedTab denoted
  exact ⟨known, plainKnown, named.mpr known, (alike plainTab plainDenoted plainKnown).mpr known⟩

/-- The default discriminator with its first character by its code. -/
def codedType : List Quoted.SpelledChar :=
  [⟨'t', .code ['0', '0', '7', '4'], by decide⟩, ⟨'y', .itself 'y', by decide⟩,
    ⟨'p', .itself 'p', by decide⟩, ⟨'e', .itself 'e', by decide⟩]

/-- A serial name that is spelled by a code is read as another one, so the rule does not find it. -/
theorem codedType_misread :
    aliasText codedType = "@SerialName(\"\\u0074ype\")" ∧
      Quoted.content codedType = defaultDiscriminator.toList ∧
      AnnotationEntry.read (aliasText codedType) = some (serialNameOf "u0074ype") ∧
      AnnotationEntry.read (aliasText codedType) ≠ some (serialNameOf defaultDiscriminator) := by
  have spelledOut : aliasText codedType = "@SerialName(\"\\u0074ype\")" := by decide
  have misread := read_aliasText codedType
  have other : String.ofList (Quoted.readAs codedType) = "u0074ype" := by decide
  have differs : serialNameOf "u0074ype" ≠ serialNameOf defaultDiscriminator := by decide
  rw [other] at misread
  refine ⟨spelledOut, by decide, misread, ?_⟩
  rw [misread]
  exact fun same => differs (Option.some.inj same)

end DiscriminatorClash

end KotlinLint
