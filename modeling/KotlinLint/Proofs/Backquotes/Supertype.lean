import KotlinLint.Declaration
import KotlinLint.Proofs.TypeName

/-!
# Backquotes in supertypes

An entry of a supertype list is read without the backquotes around its identifiers. They still
matter to an identifier that is the keyword of a delegation: where it stands between spaces, the
entry is cut off before it, and what is left is not read (`SupertypeEntry.read_write_of_spaced`). So
an entry is read as it is without backquotes exactly when these do not hide a keyword
(`SupertypeEntry.read_write_eq_bare_iff`).
-/

namespace KotlinLint

open Text

namespace SupertypeEntry

/-- The identifier without backquotes around it. -/
def Segment.bare (segment : Segment) : Segment := { segment with toWord := segment.toWord.bare }

/-- The type without backquotes around its identifiers. -/
def Qualified.bare (type : Qualified) : Qualified :=
  ⟨type.first.bare, type.rest.map fun joint => { joint with segment := joint.segment.bare }⟩

/-- The entry without backquotes around its identifiers. -/
def bare (entry : SupertypeEntry) : SupertypeEntry := { entry with type := entry.type.bare }

/-- Whether what follows the name of an entry is set off from it: type arguments follow the last
identifier only, and a delegation directly after it has spaces around its keyword. -/
structure IsSetOff (entry : SupertypeEntry) : Prop where
  qualifiers : ∀ segment ∈ entry.type.qualifiers, segment.typeArguments = none
  delegation : ∀ delegation, entry.directDelegation? = some delegation →
    delegation.before.getLast? = some ' ' ∧ delegation.after.head? = some ' '

/-- Whether an identifier of an entry is the keyword between spaces. -/
def HasSpacedKeyword (entry : SupertypeEntry) : Prop :=
  TypeName.spacedKeyword <:+: entry.type.name.write ++ entry.gapAfterType

instance (entry : SupertypeEntry) : Decidable entry.HasSpacedKeyword :=
  inferInstanceAs (Decidable (TypeName.spacedKeyword <:+: _))

namespace Qualified

/-- The name of a type without backquotes is that of the type without its. -/
theorem name_bare (type : Qualified) : type.bare.name = type.name.bare := by
  simp [name, bare, DottedName.bare, Segment.bare, Joint.link, Function.comp_def]

/-- The last identifier of a type without backquotes is that of the type without its. -/
theorem last_bare (type : Qualified) : type.bare.last = type.last.bare := by
  rw [last, bare, List.getLast?_map]
  cases own : type.rest.getLast? <;> simp [last, own]

/-- The qualifiers of a type without backquotes are those of the type without theirs. -/
theorem qualifiers_bare (type : Qualified) :
    type.bare.qualifiers = type.qualifiers.map Segment.bare := by
  simp [qualifiers, bare, List.map_dropLast, Function.comp_def]

end Qualified

section Reading

variable {entry : SupertypeEntry}

/-- Backquotes change nothing about the delegation that follows a type directly. -/
theorem directDelegation?_bare (entry : SupertypeEntry) :
    entry.bare.directDelegation? = entry.directDelegation? := by
  rw [directDelegation?, directDelegation?, bare, Qualified.last_bare]
  rfl

/-- An entry is well-formed without backquotes as it is with them. -/
theorem IsWellFormed.bare (wellFormed : entry.IsWellFormed) : entry.bare.IsWellFormed where
  type := by
    rw [SupertypeEntry.bare, Qualified.name_bare]
    exact wellFormed.type.bare
  delegation := wellFormed.delegation

/-- What follows the name is set off from it without backquotes as it is with them. -/
theorem IsSetOff.bare (setOff : entry.IsSetOff) : entry.bare.IsSetOff where
  qualifiers segment listed := by
    rw [SupertypeEntry.bare, Qualified.qualifiers_bare] at listed
    obtain ⟨own, isOwn, rfl⟩ := List.mem_map.mp listed
    exact setOff.qualifiers own isOwn
  delegation := by
    rw [directDelegation?_bare]
    exact setOff.delegation

/-- A keyword between spaces that is not hidden by backquotes is one without them. -/
theorem HasSpacedKeyword.bare (wellFormed : entry.IsWellFormed) (found : entry.HasSpacedKeyword) :
    entry.bare.HasSpacedKeyword := by
  have gap : entry.gapAfterType.filter (· != backquote) = entry.gapAfterType :=
    (isGap_gapAfterType wellFormed).filter_quotes
  have kept : entry.bare.gapAfterType = entry.gapAfterType := by
    rw [gapAfterType, directDelegation?_bare, gapAfterType]
  have unmarked := List.IsInfix.filter (· != backquote) found
  rw [List.filter_append, gap, DottedName.filter_write wellFormed.type.isWellFormed] at unmarked
  rw [HasSpacedKeyword, kept, SupertypeEntry.bare, Qualified.name_bare]
  exact unmarked

/-- Only an identifier that is the keyword can be one between spaces without backquotes. -/
theorem exists_keyword_of_bare (wellFormed : entry.IsWellFormed)
    (found : entry.bare.HasSpacedKeyword) : ∃ word ∈ entry.type.name.words, word.name = "by" := by
  have bareFormed := wellFormed.bare
  obtain ⟨word, listed, keyword⟩ :=
    Qualified.exists_keyword_of_found bareFormed.type (isGap_gapAfterType bareFormed) found
  rw [SupertypeEntry.bare, Qualified.name_bare] at listed
  obtain ⟨own, isOwn, rfl⟩ := DottedName.exists_of_mem_words_bare listed
  have unquoted : own.bare.write = own.name.toList := rfl
  refine ⟨own, isOwn, String.toList_inj.mp ?_⟩
  rw [← unquoted, keyword]
  rfl

/-- An entry with a keyword between spaces among its identifiers is not read. -/
theorem read_write_of_spaced (wellFormed : entry.IsWellFormed)
    (plain : ∀ segment ∈ entry.type.qualifiers, segment.typeArguments = none)
    (found : entry.HasSpacedKeyword) : TypeName.read (String.ofList entry.write) = none := by
  obtain ⟨more, visible⟩ := exists_visible_eq entry
  obtain ⟨back, whole⟩ := exists_eq_before_append found
  rw [List.append_assoc] at whole
  -- What is cut off begins with a blank and an identifier, so a dot ends what is left.
  obtain ⟨lead, other, divided, isGap⟩ := DottedName.exists_dot_of_blank
    wellFormed.type.isDivided (isGap_gapAfterType wellFormed) rfl rfl (by decide) whole
  have name : TypeName.nameText entry.write = lead ++ '.' :: other := by
    rw [nameText_write wellFormed plain, visible, ← List.append_assoc,
      before_append_of_found (by decide) found, divided]
  have empty : [] ∈ TypeName.parts (TypeName.nameText entry.write) := by
    have noDot : '.' ∉ other := notMem_of_forall isGap rfl
    rw [name, TypeName.parts_append_cons, TypeName.parts_single noDot, isGap.trim]
    exact List.mem_append_right _ (List.mem_singleton.mpr rfl)
  rw [TypeName.read, String.toList_ofList, Option.eq_none_iff_forall_ne_some]
  intro found' same
  exact (TypeName.readChars_eq_some_iff.mp same).2 empty

/-- An entry without a keyword between spaces among its identifiers is read as their names when what
follows is set off. -/
theorem read_write_of_setOff (wellFormed : entry.IsWellFormed) (setOff : entry.IsSetOff)
    (absent : ¬ entry.HasSpacedKeyword) :
    TypeName.read (String.ofList entry.write) = some ⟨entry.type.name.names⟩ := by
  have recognised : entry.IsRecognised := ⟨setOff.qualifiers, absent, setOff.delegation⟩
  rw [TypeName.read, String.toList_ofList, recognised.readChars_write wellFormed]

/-- An entry is read as it is without backquotes exactly when these hide no keyword between spaces
among its identifiers. -/
theorem read_write_eq_bare_iff (wellFormed : entry.IsWellFormed) (setOff : entry.IsSetOff) :
    TypeName.read (String.ofList entry.write) = TypeName.read (String.ofList entry.bare.write) ↔
      (entry.bare.HasSpacedKeyword → entry.HasSpacedKeyword) := by
  have names : entry.bare.type.name.names = entry.type.name.names := by
    rw [SupertypeEntry.bare, Qualified.name_bare, DottedName.names_bare]
  by_cases found : entry.HasSpacedKeyword
  · have bareFound := found.bare wellFormed
    rw [read_write_of_spaced wellFormed setOff.qualifiers found,
      read_write_of_spaced wellFormed.bare setOff.bare.qualifiers bareFound]
    simp [found]
  · rw [read_write_of_setOff wellFormed setOff found]
    by_cases bareFound : entry.bare.HasSpacedKeyword
    · rw [read_write_of_spaced wellFormed.bare setOff.bare.qualifiers bareFound]
      simp [found, bareFound]
    · rw [read_write_of_setOff wellFormed.bare setOff.bare bareFound, names]
      simp [bareFound]

end Reading

end SupertypeEntry

end KotlinLint
