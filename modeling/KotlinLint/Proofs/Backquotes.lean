import KotlinLint.Proofs.Backquotes.Annotation
import KotlinLint.Proofs.Backquotes.Import
import KotlinLint.Proofs.Backquotes.Supertype
import Mathlib.Data.List.Basic

/-!
# Backquotes around identifiers

Backquotes around an identifier do not change what it names. The readers remove them in imported
paths and in supertypes, but neither in the names of annotations nor around new names of imports. So
a text is read as it is without backquotes exactly when it is no annotation with backquotes in its
name, no import with backquotes around its new name, and no supertype whose backquotes keep an
identifier from being taken for the keyword of a delegation (`reads_without_backquotes_iff`).
-/

namespace KotlinLint

open Text

/-- Whether the supertypes of a class were read from written entries. -/
def ClassDeclaration.HasWrittenSupertypes (declaration : ClassDeclaration)
    (entries : List SupertypeEntry) : Prop :=
  declaration.supertypes.map Placed.value =
    entries.filterMap fun entry => TypeName.read (String.ofList entry.write)

/-- Whether backquotes make no difference to an entry of a supertype list. -/
structure SupertypeEntry.IsPlain (entry : SupertypeEntry) : Prop where
  wellFormed : entry.IsWellFormed
  setOff : entry.IsSetOff
  /-- No identifier is the keyword between spaces, with backquotes or without. -/
  absent : ¬ entry.bare.HasSpacedKeyword

namespace SupertypeEntry

variable {entry : SupertypeEntry} {entries : List SupertypeEntry}

/-- A plain entry is read as the names of its identifiers. -/
theorem IsPlain.read_write (plain : entry.IsPlain) :
    TypeName.read (String.ofList entry.write) = some ⟨entry.type.name.names⟩ :=
  read_write_of_setOff plain.wellFormed plain.setOff
    fun found => plain.absent (found.bare plain.wellFormed)

/-- A plain entry is plain without backquotes. -/
theorem IsPlain.bare (plain : entry.IsPlain) : entry.bare.IsPlain := by
  have twice : entry.bare.bare = entry.bare := by
    simp [SupertypeEntry.bare, Qualified.bare, Segment.bare, Word.bare, Function.comp_def]
  refine ⟨plain.wellFormed.bare, plain.setOff.bare, ?_⟩
  rw [twice]
  exact plain.absent

/-- The direct supertypes of a class are the last identifiers of the plain entries that they were
read from. -/
theorem isDirectSubtypeOf_iff {declaration : ClassDeclaration}
    (plain : ∀ entry ∈ entries, entry.IsPlain)
    (written : declaration.HasWrittenSupertypes entries) (name : String) :
    declaration.isDirectSubtypeOf name = true ↔ ∃ entry ∈ entries, entry.type.last.name = name := by
  have read : entries.filterMap (fun entry => TypeName.read (String.ofList entry.write)) =
      entries.map fun entry => ⟨entry.type.name.names⟩ := by
    rw [List.filterMap_eq_map_iff_forall_eq_some]
    exact fun entry listed => (plain entry listed).read_write
  have names : declaration.supertypeNames = entries.map fun entry => entry.type.last.name := by
    have split : declaration.supertypeNames =
        (declaration.supertypes.map Placed.value).map TypeName.simpleName := by
      rw [ClassDeclaration.supertypeNames, List.map_map]
      rfl
    rw [split, written, read, List.map_map]
    exact List.map_congr_left fun entry _ => entry.type.simpleName_names
  rw [ClassDeclaration.isDirectSubtypeOf, List.contains_iff_mem, names, List.mem_map]

end SupertypeEntry

/-- An annotation is read as it is without backquotes, and every search for it answers the same,
exactly when no identifier of its name has them; an import exactly when its new name has none; and
an entry of a supertype list exactly when they hide no identifier that is the keyword of a
delegation between spaces. Whichever identifiers of plain entries have backquotes, the last
identifiers of the entries are the direct supertypes of a class. -/
theorem reads_without_backquotes_iff (marker : AnnotationEntry.Spelling)
    (directive : Import.Spelling) (entry : SupertypeEntry) (entries : List SupertypeEntry) :
    (marker.IsWellFormed →
      (AnnotationEntry.read (String.ofList marker.write) =
        AnnotationEntry.read (String.ofList marker.bare.write) ↔ marker.name.IsUnquoted) ∧
      ((∀ annotations, AnnotationEntry.isWrittenAmong (String.ofList marker.write) annotations =
        AnnotationEntry.isWrittenAmong (String.ofList marker.bare.write) annotations) ↔
          marker.name.IsUnquoted)) ∧
    (directive.IsWellFormed →
      (Import.read (String.ofList directive.write) =
        Import.read (String.ofList directive.bare.write) ↔ directive.IsPlainlyRenamed) ∧
      ((∀ file : File, file.hasWrittenImport (String.ofList directive.write) =
        file.hasWrittenImport (String.ofList directive.bare.write)) ↔
          directive.IsPlainlyRenamed)) ∧
    (entry.IsWellFormed → entry.IsSetOff →
      (TypeName.read (String.ofList entry.write) = TypeName.read (String.ofList entry.bare.write) ↔
        (entry.bare.HasSpacedKeyword → entry.HasSpacedKeyword)) ∧
      (entry.bare.HasSpacedKeyword → ∃ word ∈ entry.type.name.words, word.name = "by")) ∧
    ((∀ entry ∈ entries, entry.IsPlain) → ∀ declaration : ClassDeclaration,
      declaration.HasWrittenSupertypes entries ∨
        declaration.HasWrittenSupertypes (entries.map SupertypeEntry.bare) →
      ∀ name, declaration.isDirectSubtypeOf name = true ↔
        ∃ entry ∈ entries, entry.type.last.name = name) := by
  refine ⟨?_, ?_, ?_, ?_⟩
  · intro wellFormed
    have alike := AnnotationEntry.Spelling.read_write_eq_bare_iff wellFormed
    exact ⟨alike, AnnotationEntry.forall_isWrittenAmong_iff.trans alike⟩
  · intro wellFormed
    have alike := Import.Spelling.read_write_eq_bare_iff wellFormed
    exact ⟨alike, Import.forall_hasWrittenImport_iff.trans alike⟩
  · intro wellFormed setOff
    exact ⟨SupertypeEntry.read_write_eq_bare_iff wellFormed setOff,
      SupertypeEntry.exists_keyword_of_bare wellFormed⟩
  · intro plain declaration written name
    rcases written with written | written
    · exact SupertypeEntry.isDirectSubtypeOf_iff plain written name
    · have barePlain : ∀ entry ∈ entries.map SupertypeEntry.bare, entry.IsPlain := by
        intro entry listed
        obtain ⟨own, isOwn, rfl⟩ := List.mem_map.mp listed
        exact (plain own isOwn).bare
      have last : ∀ entry : SupertypeEntry, entry.bare.type.last.name = entry.type.last.name := by
        intro entry
        rw [SupertypeEntry.bare, SupertypeEntry.Qualified.last_bare]
        rfl
      rw [SupertypeEntry.isDirectSubtypeOf_iff barePlain written name]
      simp [last]

/-- An annotation with backquotes around its name. -/
def quotedComposable : AnnotationEntry.Spelling where
  before := []
  useSite := none
  gap := []
  name := ⟨⟨"Composable", true⟩, []⟩
  list := none
  after := []

/-- An import with backquotes around its new name. -/
def quotedRename : Import.Spelling where
  before := []
  keyword := some [' ']
  path := ⟨⟨"tree", true⟩, [⟨[], [], ⟨"Tag", false⟩⟩]⟩
  wildcard := none
  rename := some ⟨[' '], [' '], ⟨"Label", true⟩⟩
  gap := []
  semicolons := 0
  after := []

/-- A supertype with backquotes around an identifier that would be the keyword. -/
def quotedKeyword : SupertypeEntry where
  type := ⟨⟨⟨"tree", false⟩, none⟩,
    [⟨[], [' '], ⟨⟨"by", true⟩, none⟩⟩, ⟨[' '], [], ⟨⟨"Base", false⟩, none⟩⟩]⟩
  nullable := false
  arguments := none
  delegation := none

/-- A supertype with backquotes around another identifier. -/
def quotedBase : SupertypeEntry where
  type := ⟨⟨⟨"tree", false⟩, none⟩, [⟨[' '], [], ⟨⟨"Base", true⟩, none⟩⟩]⟩
  nullable := false
  arguments := some ['x']
  delegation := none

/-- A class with that supertype. -/
def leaf : ClassDeclaration where
  name := "Leaf"
  nameSpan := {}
  span := {}
  kind := .plain
  modifiers := []
  annotations := []
  supertypes := [⟨⟨["tree", "Base"]⟩, {}⟩]
  parameters := []
  members := []

/-- Backquotes make a difference to the annotation, the import and the first supertype, but none to
the second one. -/
theorem quotedBase_found : quotedComposable.IsWellFormed ∧ quotedRename.IsWellFormed ∧
    (quotedKeyword.IsWellFormed ∧ quotedKeyword.IsSetOff) ∧ quotedBase.IsPlain ∧
    AnnotationEntry.read (String.ofList quotedComposable.write) ≠
      AnnotationEntry.read (String.ofList quotedComposable.bare.write) ∧
    Import.read (String.ofList quotedRename.write) ≠
      Import.read (String.ofList quotedRename.bare.write) ∧
    TypeName.read (String.ofList quotedKeyword.write) ≠
      TypeName.read (String.ofList quotedKeyword.bare.write) ∧
    TypeName.read (String.ofList quotedBase.write) =
      TypeName.read (String.ofList quotedBase.bare.write) ∧
    leaf.HasWrittenSupertypes [quotedBase] ∧ leaf.isDirectSubtypeOf "Base" = true := by
  obtain ⟨annotations, imports, keywords, _⟩ :=
    reads_without_backquotes_iff quotedComposable quotedRename quotedKeyword []
  obtain ⟨_, _, supertypes, classes⟩ :=
    reads_without_backquotes_iff quotedComposable quotedRename quotedBase [quotedBase]
  have annotationFormed : quotedComposable.IsWellFormed := by
    refine ⟨⟨?_, nofun⟩, ⟨.empty, .empty, .empty⟩, nofun, nofun⟩
    exact List.forall_mem_singleton.mpr ⟨nofun, List.all_eq_true.mp rfl⟩
  have importFormed : quotedRename.IsWellFormed := by
    refine ⟨by decide, ⟨.empty, .empty, .empty⟩, ?_, nofun, by decide, nofun, ?_⟩
    · rintro gap ⟨⟩
      decide
    · rintro newName ⟨⟩
      exact ⟨by decide, by decide, by decide⟩
  have identifier : ∀ {name : List Char}, name ≠ [] → name.all Argument.isNameChar = true →
      IsIdentifier name := fun solid chars => ⟨solid, List.all_eq_true.mp chars⟩
  have keywordFormed : quotedKeyword.IsWellFormed := by
    refine ⟨⟨?_, by decide⟩, nofun⟩
    refine List.forall_mem_cons.mpr ⟨identifier (by decide) (by decide), ?_⟩
    refine List.forall_mem_cons.mpr ⟨identifier (by decide) (by decide), ?_⟩
    exact List.forall_mem_singleton.mpr (identifier (by decide) (by decide))
  have keywordSetOff : quotedKeyword.IsSetOff := ⟨by decide, nofun⟩
  have plain : quotedBase.IsPlain := by
    refine ⟨⟨⟨?_, by decide⟩, nofun⟩, ⟨by decide, nofun⟩, by decide⟩
    refine List.forall_mem_cons.mpr ⟨identifier (by decide) (by decide), ?_⟩
    exact List.forall_mem_singleton.mpr (identifier (by decide) (by decide))
  have written : leaf.HasWrittenSupertypes [quotedBase] := by
    rw [ClassDeclaration.HasWrittenSupertypes]
    decide
  refine ⟨annotationFormed, importFormed, ⟨keywordFormed, keywordSetOff⟩, plain, ?_, ?_, ?_, ?_,
    written, ?_⟩
  · rw [Ne, (annotations annotationFormed).1]
    exact fun unquoted => absurd (unquoted _ List.mem_cons_self) (by decide)
  · rw [Ne, (imports importFormed).1]
    exact fun unquoted => absurd (unquoted _ rfl) (by decide)
  · rw [Ne, (keywords keywordFormed keywordSetOff).1]
    decide
  · rw [(supertypes plain.wellFormed plain.setOff).1]
    decide
  · rw [classes (List.forall_mem_singleton.mpr plain) leaf (.inl written)]
    exact ⟨quotedBase, List.mem_singleton.mpr rfl, rfl⟩

/-- An annotation is not read as the one without backquotes around its name, nor is an import read
as the one without them around its new name. -/
theorem quoted_names_differ :
    AnnotationEntry.read "@\x60Composable\x60" = some (.marker "\x60Composable\x60") ∧
    AnnotationEntry.read "@Composable" = some (.marker "Composable") ∧
    Import.read "import a.B as \x60C\x60" = some ⟨["a", "B"], some "\x60C\x60", false⟩ ∧
    Import.read "import a.B as C" = some ⟨["a", "B"], some "C", false⟩ ∧
    AnnotationEntry.read "@\x60Composable\x60" ≠ AnnotationEntry.read "@Composable" ∧
    Import.read "import a.B as \x60C\x60" ≠ Import.read "import a.B as C" := by
  refine ⟨?_, ?_, ?_, ?_, ?_, ?_⟩ <;> decide

end KotlinLint
