import KotlinLint.Proofs.Import
import KotlinLint.Proofs.Query

/-!
# Backquotes in imports

The segments of an imported path are read without the backquotes around them, but a new name is
read with its own. So an import is read as it is without backquotes exactly when its new name, if it
has one, has none (`Import.Spelling.read_write_eq_bare_iff`).
-/

namespace KotlinLint

open Text

namespace Import

/-- Texts are the same to every search for the import that they write exactly when they are read
alike. -/
theorem forall_hasWrittenImport_iff {text other : String} :
    (∀ file : File, file.hasWrittenImport text = file.hasWrittenImport other) ↔
      read text = read other := by
  constructor
  · intro alike
    apply eq_of_any_eq
    intro directive
    have single : ∀ sought : String,
        File.hasWrittenImport { imports := [⟨directive, {}⟩] } sought =
          (read sought).any (directive = ·) := by
      intro sought
      rw [File.hasWrittenImport]
      cases read sought with
      | none => rfl
      | some found => simp [File.hasImport]
    rw [← single, ← single, alike]
  · intro same file
    rw [File.hasWrittenImport, same, File.hasWrittenImport]

namespace Spelling

/-- The directive without backquotes around its segments and its new name. -/
def bare (spelling : Spelling) : Spelling :=
  { spelling with
    path := spelling.path.bare
    rename := spelling.rename.map fun newName => { newName with word := newName.word.bare } }

variable {spelling : Spelling}

/-- A directive is well-formed without backquotes as it is with them. -/
theorem IsWellFormed.bare (wellFormed : spelling.IsWellFormed) : spelling.bare.IsWellFormed where
  path := wellFormed.path.bare
  gaps := wellFormed.gaps
  keyword := wellFormed.keyword
  notKeyword := wellFormed.notKeyword
  notRename word listed := by
    obtain ⟨own, isOwn, rfl⟩ := DottedName.exists_of_mem_words_bare listed
    exact wellFormed.notRename own isOwn
  wildcard := wellFormed.wildcard
  rename newName renames := by
    obtain ⟨own, isOwn, rfl⟩ := Option.map_eq_some_iff.mp renames
    obtain ⟨before, after, word⟩ := wellFormed.rename own isOwn
    exact ⟨before, after, word.bare⟩

/-- A directive without backquotes has none around its new name. -/
theorem isPlainlyRenamed_bare (spelling : Spelling) : spelling.bare.IsPlainlyRenamed := by
  intro newName renames
  obtain ⟨own, _, rfl⟩ := Option.map_eq_some_iff.mp renames
  rfl

/-- The same directive is written without backquotes. -/
theorem directive_bare (spelling : Spelling) : spelling.bare.directive = spelling.directive := by
  simp only [directive, bare, DottedName.names_bare, Option.map_map]
  rfl

/-- A directive is read as it is without backquotes exactly when it has none around its new name. -/
theorem read_write_eq_bare_iff (wellFormed : spelling.IsWellFormed) :
    read (String.ofList spelling.write) = read (String.ofList spelling.bare.write) ↔
      spelling.IsPlainlyRenamed := by
  rw [read_write_of_plainlyRenamed wellFormed.bare (isPlainlyRenamed_bare spelling), directive_bare]
  constructor
  · intro same newName renames
    rw [read_write wellFormed, directive, renames] at same
    have kept : String.ofList newName.word.write = newName.word.name := by
      injection same with same
      injection same with _ same
      exact Option.some.inj same
    rw [← Word.write_eq_bare_iff, Word.write_of_unquoted (rfl : newName.word.bare.quoted = false),
      Word.bare, ← kept, String.toList_ofList]
  · intro plain
    exact read_write_of_plainlyRenamed wellFormed plain

end Spelling

end Import

end KotlinLint
