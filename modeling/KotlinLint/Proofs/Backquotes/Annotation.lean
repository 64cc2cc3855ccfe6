import KotlinLint.Proofs.AnnotationEntry.Parts
import KotlinLint.Proofs.Identifier
import KotlinLint.Proofs.Query

/-!
# Backquotes in annotations

An annotation whose name is dotted is read with its name as it is written, backquotes and all
(`AnnotationEntry.Spelling.read_write`). So backquotes around any identifier of the name make it
another annotation (`AnnotationEntry.Spelling.read_write_eq_bare_iff`), and a search for the one
does not find the other.
-/

namespace KotlinLint

open Text

namespace AnnotationEntry

/-- Texts are the same to every search for the annotation that they write exactly when they are read
alike. -/
theorem forall_isWrittenAmong_iff {text other : String} :
    (∀ annotations, isWrittenAmong text annotations = isWrittenAmong other annotations) ↔
      read text = read other := by
  constructor
  · intro alike
    apply eq_of_any_eq
    intro entry
    have single : ∀ sought : String,
        isWrittenAmong sought [⟨entry, {}⟩] = (read sought).any (entry = ·) := by
      intro sought
      simp [isWrittenAmong, isAmong]
    rw [← single, ← single, alike]
  · intro same annotations
    rw [isWrittenAmong, same, isWrittenAmong]

/-- An annotation with a dotted name as it is written. -/
structure Spelling where
  /-- The blanks before the annotation. -/
  before : List Char
  /-- What stands before the colon, when there is one. -/
  useSite : Option (List Char)
  /-- The blanks before the name. -/
  gap : List Char
  name : DottedName
  /-- The blanks before an argument list, and what stands between its parentheses. -/
  list : Option (List Char × List Char)
  /-- The blanks after the annotation. -/
  after : List Char

namespace Spelling

/-- The parts of an annotation. -/
def parts (spelling : Spelling) : Parts :=
  ⟨spelling.useSite, spelling.gap ++ spelling.name.write ++ (spelling.list.map Prod.fst).getD [],
    spelling.list.map Prod.snd⟩

/-- How an annotation is written. -/
def write (spelling : Spelling) : List Char :=
  spelling.before ++ spelling.parts.write ++ spelling.after

/-- The annotation without backquotes around the identifiers of its name. -/
def bare (spelling : Spelling) : Spelling := { spelling with name := spelling.name.bare }

/-- Whether the parts of an annotation are what they stand for. -/
structure IsWellFormed (spelling : Spelling) : Prop where
  name : spelling.name.IsOfIdentifiers
  gaps : IsGap spelling.before ∧ IsGap spelling.gap ∧ IsGap spelling.after
  /-- A use site has neither a colon nor a parenthesis. -/
  useSite : ∀ site, spelling.useSite = some site → ':' ∉ site ∧ '(' ∉ site
  list : ∀ pair, spelling.list = some pair → IsGap pair.1

variable {spelling : Spelling}

/-- An annotation is well-formed without backquotes as it is with them. -/
theorem IsWellFormed.bare (wellFormed : spelling.IsWellFormed) : spelling.bare.IsWellFormed where
  name := wellFormed.name.bare
  gaps := wellFormed.gaps
  useSite := wellFormed.useSite
  list := wellFormed.list

/-- The blanks before an argument list are a gap. -/
theorem isGap_beforeList (wellFormed : spelling.IsWellFormed) :
    IsGap ((spelling.list.map Prod.fst).getD []) := by
  cases own : spelling.list with
  | none => exact .empty
  | some pair => exact wellFormed.list pair own

/-- Without its blanks the name of an annotation is its words joined by dots. -/
theorem squeeze_name (wellFormed : spelling.IsWellFormed) :
    squeeze spelling.parts.name = spelling.name.joined := by
  rw [parts, squeeze_append, squeeze_append, wellFormed.gaps.2.1.squeeze,
    (isGap_beforeList wellFormed).squeeze, DottedName.squeeze_write wellFormed.name.isDivided,
    List.nil_append, List.append_nil]

/-- A written identifier has characters of annotation names only. -/
theorem isNameChar_of_mem_word {word : Word} (identifier : IsIdentifier word.name.toList) :
    ∀ c ∈ word.write, isNameChar c = true := by
  intro c listed
  rcases Word.mem_write listed with inName | rfl
  · have isLetter := identifier.chars c inName
    simp only [Argument.isNameChar, Bool.or_eq_true] at isLetter
    simp only [isNameChar, isLetter, Bool.or_eq_true, true_or]
  · rfl

/-- The parts of a well-formed annotation are readable. -/
theorem isReadable_parts (wellFormed : spelling.IsWellFormed) : spelling.parts.IsReadable where
  useSite := wellFormed.useSite
  chars c listed := by
    simp only [parts, List.mem_append] at listed
    rcases listed with (inGap | inName) | inOther
    · exact .inl (wellFormed.gaps.2.1 c inGap)
    · have gaps := wellFormed.name.gaps
      rcases DottedName.mem_write gaps inName with blank | rfl | ⟨word, isWord, inWord⟩
      · exact .inl blank
      · exact .inr rfl
      · exact .inr (isNameChar_of_mem_word (wellFormed.name.words word isWord) c inWord)
    · exact .inl (isGap_beforeList wellFormed c inOther)
  solid := by
    rw [squeeze_name wellFormed]
    exact DottedName.joined_ne_nil wellFormed.name.isDivided

/-- The parts of an annotation have no blank at either end. -/
theorem isTight_parts (wellFormed : spelling.IsWellFormed) : IsTight spelling.parts.write := by
  cases own : spelling.list with
  | some pair =>
    have listed : spelling.parts.list = some pair.2 := by simp [parts, own]
    exact Parts.isTight_write_of_list listed
  | none =>
    -- Without a list the name ends the parts.
    have sign : IsTight ['@'] := .of_forall (List.forall_mem_singleton.mpr rfl)
    have name := DottedName.isTight_write wellFormed.name.isDivided
    have filled : spelling.name.write ≠ [] := by
      obtain ⟨c, more, _, whole⟩ := DottedName.exists_write_eq wellFormed.name.isDivided
      exact whole ▸ List.cons_ne_nil c more
    obtain ⟨front, whole⟩ : ∃ front, spelling.parts.head = front ++ spelling.name.write := by
      cases site : spelling.useSite with
      | none => exact ⟨spelling.gap, by simp [Parts.head, parts, site, own]⟩
      | some text => exact ⟨text ++ ':' :: spelling.gap, by simp [Parts.head, parts, site, own]⟩
    have unlisted : spelling.parts.writeList = [] := by simp [Parts.writeList, parts, own]
    rw [Parts.write, whole, unlisted, List.append_nil]
    exact sign.join name (List.cons_ne_nil _ _) filled front

/-- An annotation is read with its name as it is written, without the blanks around its dots. -/
theorem read_write (wellFormed : spelling.IsWellFormed) :
    read (String.ofList spelling.write) =
      some ⟨spelling.useSite.map fun site => String.ofList (squeeze site),
        String.ofList spelling.name.joined,
        Argument.readAll ((spelling.list.map Prod.snd).getD [])⟩ := by
  have trimmed : trim spelling.write = spelling.parts.write :=
    (isTight_parts wellFormed).trim_between wellFormed.gaps.1 wellFormed.gaps.2.2
  rw [read, String.toList_ofList, Parts.readChars_of_write (isReadable_parts wellFormed) trimmed,
    Parts.entry, squeeze_name wellFormed]
  rfl

/-- An annotation is read as it is without backquotes exactly when it has none around the
identifiers of its name. -/
theorem read_write_eq_bare_iff (wellFormed : spelling.IsWellFormed) :
    read (String.ofList spelling.write) = read (String.ofList spelling.bare.write) ↔
      spelling.name.IsUnquoted := by
  rw [read_write wellFormed, read_write wellFormed.bare,
    ← DottedName.joined_eq_bare_iff wellFormed.name.isWellFormed]
  simp [bare, String.ofList_inj]

end Spelling

end AnnotationEntry

end KotlinLint
