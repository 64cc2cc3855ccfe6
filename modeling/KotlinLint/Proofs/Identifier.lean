import KotlinLint.Proofs.AnnotationEntry
import KotlinLint.Proofs.Text.DottedName

/-!
# Names of identifiers

An identifier is a word that has letters, digits and underscores only, so a dotted name of
identifiers is well-formed (`Text.DottedName.IsOfIdentifiers.isWellFormed`). However it is written,
its letters are those of the identifiers (`Text.DottedName.IsOfIdentifiers.letters_write`).
-/

namespace KotlinLint

open Text

/-- The letters, digits and underscores of a text. -/
def letters (text : List Char) : List Char := text.filter Argument.isNameChar

/-- The letters of a text are those of its parts. -/
theorem letters_append (front back : List Char) :
    letters (front ++ back) = letters front ++ letters back := List.filter_append front back

/-- Blanks are no letters. -/
theorem isNameChar_of_isBlank {c : Char} (blank : isBlank c = true) :
    Argument.isNameChar c = false := by
  rw [← Bool.not_eq_true]
  intro isLetter
  rw [Argument.isBlank_of_isNameChar isLetter] at blank
  cases blank

/-- A gap has no letters. -/
theorem letters_gap {gap : List Char} (isGap : IsGap gap) : letters gap = [] := by
  apply List.filter_eq_nil_iff.mpr
  intro c listed
  simp [isNameChar_of_isBlank (isGap c listed)]

/-- An identifier has letters only. -/
theorem IsIdentifier.letters_eq {name : List Char} (identifier : IsIdentifier name) :
    letters name = name := List.filter_eq_self.mpr identifier.chars

namespace Text

/-- An identifier is a word of a name. -/
theorem Word.isWellFormed_of_isIdentifier {word : Word}
    (identifier : IsIdentifier word.name.toList) : word.IsWellFormed where
  solid := identifier.solid
  chars c listed := by
    have isLetter := identifier.chars c listed
    have solid := Argument.isBlank_of_isNameChar isLetter
    have other : ∀ mark, Argument.isNameChar mark = false → c ≠ mark := by
      rintro mark noLetter rfl
      rw [isLetter] at noLetter
      cases noLetter
    simp [Word.isPlain, solid, other '.' rfl, other ';' rfl, other '*' rfl,
      other backquote rfl]

/-- The letters of a written identifier are its name. -/
theorem Word.letters_write {word : Word} (identifier : IsIdentifier word.name.toList) :
    letters word.write = word.name.toList := by
  have own := identifier.letters_eq
  rw [write]
  split
  · have quotes : letters [backquote] = [] := rfl
    rw [← List.singleton_append, letters_append, letters_append, quotes, own, List.nil_append,
      List.append_nil]
  · exact own

namespace DottedName

/-- Whether a name has identifiers as its words, and blanks around its dots. -/
abbrev IsOfIdentifiers (name : DottedName) : Prop :=
  name.HasWords fun word => IsIdentifier word.name.toList

namespace IsOfIdentifiers

variable {name : DottedName}

/-- A name of identifiers is well-formed. -/
theorem isWellFormed (named : name.IsOfIdentifiers) : name.IsWellFormed :=
  named.imp fun _ => Word.isWellFormed_of_isIdentifier

/-- The identifiers of a name can be told from the dots and the blanks. -/
theorem isDivided (named : name.IsOfIdentifiers) : name.IsDivided := named.isWellFormed.isDivided

/-- A name is one of identifiers without backquotes as it is with them. -/
theorem bare (named : name.IsOfIdentifiers) : name.bare.IsOfIdentifiers :=
  HasWords.bare named fun _ identifier => identifier

/-- A mark that is neither a letter, a backquote, a blank nor a dot is not in a written name. -/
theorem notMem_write (named : name.IsOfIdentifiers) {mark : Char}
    (noLetter : Argument.isNameChar mark = false) (noQuote : mark ≠ backquote)
    (noBlank : isBlank mark = false) (noDot : mark ≠ '.') : mark ∉ name.write := by
  intro listed
  rcases mem_write named.gaps listed with blank | dot | ⟨word, isWord, inWord⟩
  · rw [noBlank] at blank
    cases blank
  · exact noDot dot
  · rcases Word.mem_write inWord with inName | quote
    · rw [(named.words word isWord).chars mark inName] at noLetter
      cases noLetter
    · exact noQuote quote

/-- The letters of a written name are those of its identifiers. -/
theorem letters_write (named : name.IsOfIdentifiers) :
    letters name.write = name.names.flatMap String.toList := by
  obtain ⟨first, rest⟩ := name
  induction rest generalizing first with
  | nil =>
    have own := Word.letters_write (named.words first List.mem_cons_self)
    rw [write_single, own]
    exact (List.append_nil _).symm
  | cons link rest ih =>
    have own := Word.letters_write (named.words first List.mem_cons_self)
    obtain ⟨before, after⟩ := named.gaps link List.mem_cons_self
    have dot : letters ['.'] = [] := rfl
    rw [write_cons, ← List.singleton_append, letters_append, letters_append, letters_append,
      letters_append, own, letters_gap before, dot, letters_gap after, ih link.word named.tail,
      List.append_nil, List.nil_append, List.nil_append]
    rfl

/-- The identifiers of a name have letters only. -/
theorem letters_names (named : name.IsOfIdentifiers) :
    (name.names.map String.toList).flatMap letters = name.names.flatMap String.toList := by
  have own : ∀ text ∈ name.names, letters text.toList = text.toList := by
    intro text isName
    obtain ⟨word, isWord, rfl⟩ := List.mem_map.mp isName
    exact (named.words word isWord).letters_eq
  rw [List.flatMap_map, List.flatMap_def, List.flatMap_def, List.map_congr_left own]

/-- No identifier of a name is empty. -/
theorem nil_notMem_names (named : name.IsOfIdentifiers) : [] ∉ name.names.map String.toList := by
  intro listed
  obtain ⟨text, isName, empty⟩ := List.mem_map.mp listed
  obtain ⟨word, isWord, rfl⟩ := List.mem_map.mp isName
  exact (named.words word isWord).solid empty

/-- A name of identifiers has letters. -/
theorem letters_write_ne_nil (named : name.IsOfIdentifiers) : letters name.write ≠ [] := by
  have first := (named.words name.first List.mem_cons_self).solid
  have more : name.names.flatMap String.toList =
      name.first.name.toList ++ name.rest.flatMap fun link => link.word.name.toList := by
    simp [names, words, List.flatMap_map]
  rw [named.letters_write, more]
  exact List.append_ne_nil_of_left_ne_nil first _

end IsOfIdentifiers

end DottedName

end Text

end KotlinLint
