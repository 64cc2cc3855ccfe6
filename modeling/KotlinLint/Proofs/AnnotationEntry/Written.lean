import KotlinLint.AnnotationEntry
import KotlinLint.Proofs.Text.Gap
import KotlinLint.Proofs.Text.Passage

/-!
# Written annotations

How an annotation is written, with gaps wherever they may stand: around the whole text, after the
at sign, around the colon, around the parentheses and around the commas and equals signs between
them (`AnnotationEntry.IsWritten`). An annotation without arguments may have parentheses or none,
and a comma may follow the last argument. Every annotation is written by some text
(`AnnotationEntry.exists_isWritten`); a text that writes a well-formed one can be read.
-/

namespace KotlinLint

open Text

/-- Whether a text is an identifier. -/
structure IsIdentifier (text : List Char) : Prop where
  /-- It is not empty. -/
  solid : text ≠ []
  /-- It has only letters, digits and underscores. -/
  chars : ∀ c ∈ text, Argument.isNameChar c = true

/-- Whether a text is an expression that stands as one argument without blanks. -/
structure IsPlainExpression (source : List Char) : Prop where
  /-- It is not empty. -/
  solid : source ≠ []
  /-- It has no blanks, no string literals and no equals signs. -/
  chars : ∀ c ∈ source, isBlank c = false ∧ c ≠ '"' ∧ c ≠ '='
  /-- Every closing bracket closes an open one. -/
  opened : ∀ front back, source = front ++ back → front.countP isClosing ≤ front.countP isOpening
  /-- No bracket remains open. -/
  closed : source.countP isClosing = source.countP isOpening
  /-- Every comma is inside a bracket. -/
  enclosed : ∀ front back, source = front ++ ',' :: back →
    front.countP isClosing < front.countP isOpening

/-- Whether an expression is plain can be seen at each place of it. -/
theorem isPlainExpression_iff_places {source : List Char} :
    IsPlainExpression source ↔
      (source ≠ [] ∧ source.countP isClosing = source.countP isOpening) ∧
      ∀ (place : Nat) (inside : place < source.length),
        (isBlank source[place] = false ∧ source[place] ≠ '"' ∧ source[place] ≠ '=') ∧
        (source.take place).countP isClosing ≤ (source.take place).countP isOpening ∧
        (source[place] = ',' →
          (source.take place).countP isClosing < (source.take place).countP isOpening) := by
  constructor
  · intro plain
    refine ⟨⟨plain.solid, plain.closed⟩, fun place inside => ⟨?_, ?_, fun comma => ?_⟩⟩
    · exact plain.chars _ (List.getElem_mem inside)
    · exact plain.opened _ (source.drop place) (List.take_append_drop ..).symm
    · refine plain.enclosed _ (source.drop (place + 1)) ?_
      rw [← comma, ← List.drop_eq_getElem_cons inside, List.take_append_drop]
  · rintro ⟨⟨solid, closed⟩, places⟩
    refine ⟨solid, ?_, ?_, closed, ?_⟩
    · intro c listed
      obtain ⟨place, inside, rfl⟩ := List.getElem_of_mem listed
      exact (places place inside).1
    · rintro front back rfl
      cases back with
      | nil =>
        rw [List.append_nil] at closed
        exact Nat.le_of_eq closed
      | cons c rest =>
        have bound := (places front.length (by simp)).2.1
        rwa [List.take_left] at bound
    · rintro front back rfl
      have bound := (places front.length (by simp)).2.2 (by simp)
      rwa [List.take_left] at bound

instance (source : List Char) : Decidable (IsPlainExpression source) :=
  decidable_of_iff _ isPlainExpression_iff_places.symm

namespace ArgumentValue

/-- Whether a value can be told from what stands around it: a string says anything, and an
expression is plain. -/
def IsWellFormed : ArgumentValue → Prop
  | text _ => True
  | expression source => IsPlainExpression source.toList

/-- How a value is written. -/
def write : ArgumentValue → List Char
  | text content => Quoted.write content.toList
  | expression source => source.toList

end ArgumentValue

namespace Argument

/-- Whether the name and the value of an argument can be told from what stands around them. -/
structure IsWellFormed (argument : Argument) : Prop where
  /-- A name is an identifier. -/
  name : ∀ name, argument.name = some name → IsIdentifier name.toList
  /-- The value is well-formed. -/
  value : argument.value.IsWellFormed

/-- Whether a text writes an argument, from its first to its last character. -/
inductive IsWritten : Argument → List Char → Prop where
  /-- An argument without a name is its value. -/
  | positional {value : ArgumentValue} : IsWritten ⟨none, value⟩ value.write
  /-- An equals sign stands between the name and the value. -/
  | named {name : String} {value : ArgumentValue} {before after : List Char} :
      IsGap before → IsGap after →
      IsWritten ⟨some name, value⟩ (name.toList ++ before ++ '=' :: (after ++ value.write))

/-- Whether a text writes arguments as they stand between the parentheses. -/
inductive AreWritten : List Argument → List Char → Prop where
  /-- A gap writes no arguments. -/
  | nil {gap : List Char} : IsGap gap → AreWritten [] gap
  /-- No comma needs to follow the last argument. -/
  | last {argument : Argument} {text before after : List Char} :
      argument.IsWritten text → IsGap before → IsGap after →
      AreWritten [argument] (before ++ text ++ after)
  /-- A comma stands between an argument and those after it, of which there may be none. -/
  | cons {argument : Argument} {rest : List Argument} {text before after others : List Char} :
      argument.IsWritten text → IsGap before → IsGap after → AreWritten rest others →
      AreWritten (argument :: rest) (before ++ text ++ after ++ ',' :: others)

/-- Every argument is written by some text. -/
theorem exists_isWritten (argument : Argument) : ∃ text, argument.IsWritten text := by
  obtain ⟨name, value⟩ := argument
  cases name with
  | none => exact ⟨_, .positional⟩
  | some name => exact ⟨_, .named .empty .empty⟩

/-- Every list of arguments is written by some text. -/
theorem exists_areWritten (arguments : List Argument) : ∃ text, AreWritten arguments text := by
  induction arguments with
  | nil => exact ⟨[], .nil .empty⟩
  | cons argument rest ih =>
    obtain ⟨text, written⟩ := argument.exists_isWritten
    obtain ⟨others, restWritten⟩ := ih
    exact ⟨_, .cons written .empty .empty restWritten⟩

end Argument

namespace AnnotationEntry

/-- Whether the parts of an annotation can be told from each other. -/
structure IsWellFormed (entry : AnnotationEntry) : Prop where
  /-- A use site is an identifier. -/
  useSite : ∀ site, entry.useSite = some site → IsIdentifier site.toList
  /-- The name is not empty. -/
  solid : entry.name.toList ≠ []
  /-- The name has only characters of names. -/
  name : ∀ c ∈ entry.name.toList, isNameChar c = true
  /-- The arguments are well-formed. -/
  arguments : ∀ argument ∈ entry.arguments, argument.IsWellFormed

/-- Whether a text writes a use site and a name, from the character after the at sign to the last
one of the name. -/
inductive IsWrittenHead : Option String → String → List Char → Prop where
  /-- Without a use site there is only the name. -/
  | plain {name : String} {before : List Char} :
      IsGap before → IsWrittenHead none name (before ++ name.toList)
  /-- A colon stands between the use site and the name. -/
  | targeted {site name : String} {before beforeColon afterColon : List Char} :
      IsGap before → IsGap beforeColon → IsGap afterColon →
      IsWrittenHead (some site) name
        (before ++ site.toList ++ beforeColon ++ ':' :: (afterColon ++ name.toList))

/-- Whether a text writes an annotation. -/
inductive IsWritten : AnnotationEntry → List Char → Prop where
  /-- Without arguments no parentheses are needed. -/
  | bare {useSite : Option String} {name : String} {head before after : List Char} :
      IsWrittenHead useSite name head → IsGap before → IsGap after →
      IsWritten ⟨useSite, name, []⟩ (before ++ '@' :: head ++ after)
  /-- The arguments stand between parentheses. -/
  | listed {entry : AnnotationEntry} {head list before gap after : List Char} :
      IsWrittenHead entry.useSite entry.name head → Argument.AreWritten entry.arguments list →
      IsGap before → IsGap gap → IsGap after →
      IsWritten entry (before ++ ('@' :: (head ++ gap) ++ '(' :: list ++ [')']) ++ after)

/-- Every annotation is written by some text. -/
theorem exists_isWritten (entry : AnnotationEntry) :
    ∃ text : String, entry.IsWritten text.toList := by
  obtain ⟨head, headWritten⟩ : ∃ head, IsWrittenHead entry.useSite entry.name head := by
    cases entry.useSite with
    | none => exact ⟨_, .plain .empty⟩
    | some site => exact ⟨_, .targeted .empty .empty .empty⟩
  obtain ⟨list, listWritten⟩ := Argument.exists_areWritten entry.arguments
  have written := IsWritten.listed headWritten listWritten .empty .empty .empty
  exact ⟨String.ofList _, by rwa [String.toList_ofList]⟩

end AnnotationEntry

end KotlinLint
