import KotlinLint.Import
import KotlinLint.Proofs.Text.DottedName

/-!
# Written imports

How an import directive is written (`Import.Spelling.write`): the keyword, which may be left out
unless the path begins with its word, the path, an asterisk after one more dot for a wildcard, the
word `as` and a new name, and semicolons. Blanks may stand around the dots, around the semicolons
and around the directive, and some stand after the keyword and on either side of `as`. Every
directive whose names can be told apart is written by some text (`Import.exists_isWritten`).
-/

namespace KotlinLint

open Text

namespace Import

/-- The word that begins a directive. -/
def keyword : List Char := "import".toList

/-- The word before a new name. -/
def renameKeyword : List Char := "as".toList

/-- A new name as it is written. -/
structure NewName where
  /-- The blanks before the word `as`. -/
  before : List Char
  /-- The blanks after it. -/
  after : List Char
  word : Word

/-- An import directive as it is written. -/
structure Spelling where
  /-- The blanks before the directive. -/
  before : List Char
  /-- The blanks after the keyword, when it is there. -/
  keyword : Option (List Char)
  path : DottedName
  /-- The blanks before and after the dot of a wildcard. -/
  wildcard : Option (List Char × List Char)
  rename : Option NewName
  /-- The blanks before the semicolons. -/
  gap : List Char
  semicolons : Nat
  /-- The blanks after the directive. -/
  after : List Char

/-- How a new name is written. -/
def NewName.write (newName : NewName) : List Char :=
  newName.before ++ renameKeyword ++ newName.after ++ newName.word.write

namespace Spelling

/-- The dot and the asterisk of a wildcard. -/
def asterisk (gaps : List Char × List Char) : Link := ⟨gaps.1, gaps.2, ⟨"*", false⟩⟩

/-- The path with the asterisk of a wildcard. -/
def target (spelling : Spelling) : DottedName :=
  match spelling.wildcard with
  | none => spelling.path
  | some gaps => spelling.path.concat (asterisk gaps)

/-- How the keyword is written. -/
def writeKeyword (spelling : Spelling) : List Char :=
  (spelling.keyword.map (Import.keyword ++ ·)).getD []

/-- How a directive is written from its first to its last word. -/
def body (spelling : Spelling) : List Char :=
  spelling.writeKeyword ++ spelling.target.write ++ (spelling.rename.map NewName.write).getD []

/-- How a directive is written. -/
def write (spelling : Spelling) : List Char :=
  spelling.before ++ (spelling.body ++ spelling.gap ++ List.replicate spelling.semicolons ';') ++
    spelling.after

/-- The directive that is written. -/
def directive (spelling : Spelling) : Import :=
  ⟨spelling.path.names, spelling.rename.map (·.word.name), spelling.wildcard.isSome⟩

/-- Whether the parts of a directive are what they stand for. -/
structure IsWellFormed (spelling : Spelling) : Prop where
  path : spelling.path.IsWellFormed
  gaps : IsGap spelling.before ∧ IsGap spelling.gap ∧ IsGap spelling.after
  /-- Some blanks stand after the keyword. -/
  keyword : ∀ gap, spelling.keyword = some gap → IsGap gap ∧ gap ≠ []
  /-- The path does not begin with a word that would be the keyword. -/
  notKeyword : spelling.keyword = none → spelling.path.first.name ≠ "import"
  /-- No segment is the word before a new name. -/
  notRename : ∀ word ∈ spelling.path.words, word.name ≠ "as"
  wildcard : ∀ gaps, spelling.wildcard = some gaps → IsGap gaps.1 ∧ IsGap gaps.2
  /-- Some blanks stand on either side of the word before a new name. -/
  rename : ∀ newName, spelling.rename = some newName →
    (IsGap newName.before ∧ newName.before ≠ []) ∧
      (IsGap newName.after ∧ newName.after ≠ []) ∧ newName.word.IsWellFormed

/-- Whether the new name of a directive, if there is one, stands without backquotes. -/
def IsPlainlyRenamed (spelling : Spelling) : Prop :=
  ∀ newName, spelling.rename = some newName → newName.word.quoted = false

end Spelling

/-- Whether the names in a directive can be told from what stands around them. -/
structure IsWellFormed (directive : Import) : Prop where
  solid : directive.path ≠ []
  /-- No segment is the word before a new name. -/
  path : ∀ name ∈ directive.path, (⟨name, false⟩ : Word).IsWellFormed ∧ name ≠ "as"
  rename : ∀ name, directive.rename = some name → (⟨name, false⟩ : Word).IsWellFormed

/-- A path is written without blanks and backquotes. -/
theorem exists_dottedName {path : List String} (solid : path ≠ []) :
    ∃ name : DottedName, name.words = path.map (⟨·, false⟩) ∧
      ∀ link ∈ name.rest, IsGap link.before ∧ IsGap link.after := by
  obtain ⟨first, rest, rfl⟩ := List.exists_cons_of_ne_nil solid
  refine ⟨⟨⟨first, false⟩, rest.map fun name => ⟨[], [], ⟨name, false⟩⟩⟩, ?_, ?_⟩
  · simp [DottedName.words, Function.comp_def]
  · intro link listed
    obtain ⟨name, _, rfl⟩ := List.mem_map.mp listed
    exact ⟨.empty, .empty⟩

/-- Whether a text writes a directive, with no backquotes around a new name. -/
def IsWritten (directive : Import) (text : String) : Prop :=
  ∃ spelling : Spelling, spelling.IsWellFormed ∧ spelling.IsPlainlyRenamed ∧
    spelling.directive = directive ∧ String.ofList spelling.write = text

/-- Every well-formed directive is written by some text. -/
theorem exists_isWritten {directive : Import} (wellFormed : directive.IsWellFormed) :
    ∃ text, directive.IsWritten text := by
  obtain ⟨path, rename, wildcard⟩ := directive
  obtain ⟨name, words, gaps⟩ := exists_dottedName wellFormed.solid
  have blank : IsGap [' '] := by decide
  refine ⟨_, ⟨[], some [' '], name, if wildcard then some ([], []) else none,
    rename.map fun new => ⟨[' '], [' '], ⟨new, false⟩⟩, [], 0, []⟩, ?_, ?_, ?_, rfl⟩
  · have isName : ∀ word ∈ name.words, word.IsWellFormed ∧ word.name ≠ "as" := by
      intro word listed
      rw [words] at listed
      obtain ⟨segment, isSegment, rfl⟩ := List.mem_map.mp listed
      exact wellFormed.path segment isSegment
    refine ⟨⟨fun word listed => (isName word listed).1, gaps⟩, ⟨.empty, .empty, .empty⟩, ?_, nofun,
      fun word listed => (isName word listed).2, ?_, ?_⟩
    · rintro gap ⟨⟩
      exact ⟨blank, nofun⟩
    · intro pair listed
      cases wildcard with
      | false => cases listed
      | true =>
        cases listed
        exact ⟨.empty, .empty⟩
    · intro newName renames
      obtain ⟨new, isNew, rfl⟩ := Option.map_eq_some_iff.mp renames
      exact ⟨⟨blank, nofun⟩, ⟨blank, nofun⟩, wellFormed.rename new isNew⟩
  · intro newName renames
    obtain ⟨new, isNew, rfl⟩ := Option.map_eq_some_iff.mp renames
    rfl
  · have names : name.names = path := by
      rw [DottedName.names, words, List.map_map]
      exact List.map_id'' (fun _ => rfl) path
    simp only [Spelling.directive, names]
    cases rename <;> cases wildcard <;> rfl

end Import

end KotlinLint
