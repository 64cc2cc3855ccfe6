import KotlinLint.Proofs.TypeName.Spelled

/-!
# Reading written supertypes

An entry of a supertype list is read as the names of its identifiers exactly when nothing before its
end ends a name (`SupertypeEntry.read_write_iff`). Type arguments end the name wherever they stand,
and so does the keyword of a delegation between two spaces, even as an identifier; a keyword with
another blank beside it does not. What is read has the letters of the names only when nothing was
cut off and the name did not go on into a delegation (`isRecognised_of_letters`).
-/

namespace KotlinLint

open Text

namespace SupertypeEntry

/-- Whether an entry has nothing before its end that ends a name. -/
structure IsRecognised (entry : SupertypeEntry) : Prop where
  /-- Type arguments follow the last identifier only. -/
  qualifiers : ∀ segment ∈ entry.type.qualifiers, segment.typeArguments = none
  /-- No identifier is the keyword between spaces. -/
  identifiers : ¬ TypeName.spacedKeyword <:+: entry.type.name.write ++ entry.gapAfterType
  /-- A space stands directly before and directly after the keyword of a delegation that follows
  the last identifier. -/
  delegation : ∀ delegation, entry.directDelegation? = some delegation →
    delegation.before.getLast? = some ' ' ∧ delegation.after.head? = some ' '

section Reading

variable {entry : SupertypeEntry} {delegation : Delegation}

/-- What is left of a delegation before the end of the name. -/
def Delegation.visible (delegation : Delegation) : List Char :=
  delegation.before ++ keyword ++ (delegation.after ++ TypeName.untilEnd delegation.expression)

/-- A gap does not end the name. -/
theorem endsName_of_mem_gap {gap : List Char} (isGap : IsGap gap) :
    ∀ c ∈ gap, TypeName.endsName c = false := by
  intro c listed
  rw [← Bool.not_eq_true]
  intro ends
  have noBlank := (TypeName.kinds_of_endsName ends).2.2.1
  rw [isGap c listed] at noBlank
  cases noBlank

/-- A delegation is an entry's own when it follows the last identifier. -/
theorem delegation_of_direct (direct : entry.directDelegation? = some delegation) :
    entry.delegation = some delegation := by
  rw [directDelegation?] at direct
  split at direct
  · exact direct
  · cases direct

/-- A delegation does not end the name before its expression. -/
theorem Delegation.untilEnd_write (before : IsGap delegation.before)
    (after : IsGap delegation.after) :
    TypeName.untilEnd delegation.write = delegation.visible := by
  have word : ∀ c ∈ keyword, TypeName.endsName c = false :=
    List.forall_mem_cons.mpr ⟨rfl, List.forall_mem_singleton.mpr rfl⟩
  have regroup : delegation.write =
      delegation.before ++ (keyword ++ (delegation.after ++ delegation.expression)) := by
    simp [Delegation.write]
  rw [regroup, TypeName.untilEnd_append (endsName_of_mem_gap before),
    TypeName.untilEnd_append word, TypeName.untilEnd_append (endsName_of_mem_gap after),
    ← List.append_assoc]
  rfl

/-- Up to the end of the name an entry has its type, and a delegation that follows the last
identifier. -/
theorem untilEnd_write (wellFormed : entry.IsWellFormed)
    (plain : ∀ segment ∈ entry.type.qualifiers, segment.typeArguments = none) :
    TypeName.untilEnd entry.write =
      entry.type.name.write ++ (entry.directDelegation?.map Delegation.visible).getD [] := by
  have goesOn := Qualified.endsName_of_mem_name wellFormed.type
  rw [write, Qualified.write_eq plain, List.append_assoc, TypeName.untilEnd_append goesOn]
  congr 1
  rw [directDelegation?, writeTail]
  cases entry.type.last.typeArguments with
  | some inner => exact TypeName.untilEnd_cons rfl _
  | none =>
    cases entry.nullable with
    | true => exact TypeName.untilEnd_cons rfl _
    | false =>
      cases entry.arguments with
      | some inner => exact TypeName.untilEnd_cons rfl _
      | none =>
        cases own : entry.delegation with
        | none => rfl
        | some delegation =>
          obtain ⟨before, after⟩ := wellFormed.delegation delegation own
          exact Delegation.untilEnd_write before.1 after.1

/-- The part of an entry that holds its name. -/
theorem nameText_write (wellFormed : entry.IsWellFormed)
    (plain : ∀ segment ∈ entry.type.qualifiers, segment.typeArguments = none) :
    TypeName.nameText entry.write = before TypeName.spacedKeyword
      (entry.type.name.write ++ (entry.directDelegation?.map Delegation.visible).getD []) := by
  rw [TypeName.nameText_eq, untilEnd_write wellFormed plain]

/-- The blanks after the type are a gap. -/
theorem isGap_gapAfterType (wellFormed : entry.IsWellFormed) : IsGap entry.gapAfterType := by
  rw [gapAfterType]
  cases direct : entry.directDelegation? with
  | none => exact .empty
  | some delegation =>
    exact (wellFormed.delegation delegation (delegation_of_direct direct)).1.1

/-- What is left of a delegation begins with the blanks after the type. -/
theorem exists_visible_eq (entry : SupertypeEntry) :
    ∃ more, (entry.directDelegation?.map Delegation.visible).getD [] =
      entry.gapAfterType ++ more := by
  rw [gapAfterType]
  cases entry.directDelegation? with
  | none => exact ⟨[], rfl⟩
  | some delegation => exact ⟨_, List.append_assoc _ _ _⟩

/-- A keyword at the end of a text is no keyword between spaces. -/
theorem infix_of_infix_keyword {text : List Char}
    (found : TypeName.spacedKeyword <:+: text ++ keyword) : TypeName.spacedKeyword <:+: text := by
  have regroup : text ++ keyword = text ++ ['b'] ++ ['y'] := by simp [keyword]
  rw [regroup] at found
  have shorter := infix_of_infix_concat rfl (by decide) found
  exact infix_of_infix_concat rfl (by decide) shorter

/-- A delegation with a space on either side of its keyword has the keyword between spaces. -/
theorem Delegation.visible_of_spaces (spaceBefore : delegation.before.getLast? = some ' ')
    (spaceAfter : delegation.after.head? = some ' ') :
    ∃ gap rest, delegation.before = gap ++ [' '] ∧
      delegation.visible = gap ++ TypeName.spacedKeyword ++ rest := by
  obtain ⟨gap, ends⟩ := List.getLast?_eq_some_iff.mp spaceBefore
  obtain ⟨rest, starts⟩ := List.head?_eq_some_iff.mp spaceAfter
  refine ⟨gap, rest ++ TypeName.untilEnd delegation.expression, ends, ?_⟩
  rw [Delegation.visible, ends, starts]
  simp [TypeName.spacedKeyword]

/-- What holds the name of a recognised entry is its type with blanks after it. -/
theorem IsRecognised.nameText_eq (recognised : entry.IsRecognised)
    (wellFormed : entry.IsWellFormed) :
    ∃ gap, IsGap gap ∧ TypeName.nameText entry.write = entry.type.name.write ++ gap := by
  have absent := recognised.identifiers
  rw [nameText_write wellFormed recognised.qualifiers]
  cases direct : entry.directDelegation? with
  | none =>
    rw [gapAfterType, direct, Option.map_none, Option.getD_none, List.append_nil] at absent
    rw [Option.map_none, Option.getD_none, List.append_nil, before_of_absent absent]
    exact ⟨[], .empty, (List.append_nil _).symm⟩
  | some delegation =>
    obtain ⟨spaceBefore, spaceAfter⟩ := recognised.delegation delegation direct
    obtain ⟨gap, rest, ends, visible⟩ := Delegation.visible_of_spaces spaceBefore spaceAfter
    have isGap := (wellFormed.delegation delegation (delegation_of_direct direct)).1.1
    rw [gapAfterType, direct, Option.map_some, Option.getD_some, ends] at absent
    rw [ends] at isGap
    have nowhere :
        ¬ TypeName.spacedKeyword <:+: entry.type.name.write ++ gap ++ (' ' :: keyword) := by
      have regroup : entry.type.name.write ++ gap ++ (' ' :: keyword) =
          entry.type.name.write ++ (gap ++ [' ']) ++ keyword := by simp
      rw [regroup]
      exact mt infix_of_infix_keyword absent
    have found := before_append_pattern rfl rest nowhere
    rw [Option.map_some, Option.getD_some, visible, ← List.append_assoc, ← List.append_assoc]
    exact ⟨gap, fun c listed => isGap c (List.mem_append_left _ listed), found⟩

/-- The keyword has two letters. -/
theorem length_letters_keyword : (letters keyword).length = 2 := by decide

/-- When a text is cut before the keyword between spaces and keeps its letters up to a keyword, this
keyword is the one between spaces. -/
theorem eq_of_letters_eq {front back cut rest : List Char}
    (whole : front ++ (keyword ++ back) = cut ++ (TypeName.spacedKeyword ++ rest))
    (kept : letters cut = letters front) : front = cut ++ [' '] ∧ back = ' ' :: rest := by
  rcases List.append_eq_append_iff.mp whole with ⟨more, longer, later⟩ | ⟨left, split, later⟩
  · -- The cut text goes on into the letters of the keyword.
    have later : 'b' :: 'y' :: back = more ++ ' ' :: 'b' :: 'y' :: ' ' :: rest := later
    rw [longer, letters_append] at kept
    have none := List.append_right_eq_self.mp kept
    cases more with
    | nil => cases later
    | cons c further =>
      obtain ⟨rfl, _⟩ := List.cons.inj later
      cases none
  · -- The cut text leaves no letters of the text, and what it leaves begins the pattern.
    have later : ' ' :: 'b' :: 'y' :: ' ' :: rest = left ++ 'b' :: 'y' :: back := later
    rw [split, letters_append] at kept
    have none := List.append_right_eq_self.mp kept.symm
    match left with
    | [] => cases later
    | [c] =>
      cases later
      exact ⟨split, rfl⟩
    | c :: d :: further =>
      obtain ⟨rfl, next⟩ := List.cons.inj later
      obtain ⟨rfl, _⟩ := List.cons.inj next
      cases none

/-- Where a name keeps its letters before a delegation, the keyword stands between spaces. -/
theorem spaces_of_letters {name gap other rest : List Char} (isGap : IsGap gap) (solid : gap ≠ [])
    (otherSolid : other ≠ []) (kept : letters (before TypeName.spacedKeyword
      (name ++ (gap ++ keyword ++ (other ++ rest)))) = letters name) :
    gap.getLast? = some ' ' ∧ other.head? = some ' ' := by
  have ofName : letters (name ++ gap) = letters name := by
    rw [letters_append, letters_gap isGap, List.append_nil]
  have regroup : name ++ (gap ++ keyword ++ (other ++ rest)) =
      (name ++ gap) ++ (keyword ++ (other ++ rest)) := by simp
  rw [regroup] at kept
  by_cases found : TypeName.spacedKeyword <:+: (name ++ gap) ++ (keyword ++ (other ++ rest))
  · obtain ⟨back, whole⟩ := exists_eq_before_append found
    have divided := whole.trans (List.append_assoc _ _ back)
    obtain ⟨front, behind⟩ := eq_of_letters_eq divided (kept.trans ofName.symm)
    constructor
    · have last := congrArg List.getLast? front
      rw [List.getLast?_append, List.getLast?_concat] at last
      cases own : gap.getLast? with
      | none => exact absurd (List.getLast?_eq_none_iff.mp own) solid
      | some c =>
        rw [own, Option.some_or] at last
        exact last
    · obtain ⟨c, others, rfl⟩ := List.exists_cons_of_ne_nil otherSolid
      obtain ⟨rfl, _⟩ := List.cons.inj behind
      rfl
  · rw [before_of_absent found, letters_append, ofName] at kept
    have gained := congrArg List.length kept
    rw [letters_append, List.length_append, List.length_append, length_letters_keyword] at gained
    omega

/-- Where the name of an entry keeps its letters, type arguments follow the last identifier only. -/
theorem plain_of_letters (wellFormed : entry.IsWellFormed)
    (kept : letters (TypeName.nameText entry.write) = letters entry.type.name.write) :
    ∀ segment ∈ entry.type.qualifiers, segment.typeArguments = none := by
  intro segment listed
  rw [← Option.not_isSome_iff_eq_none, Option.isSome_iff_ne_none]
  intro given
  have shorter := Qualified.length_letters_lt wellFormed.type ⟨segment, listed, given⟩
    entry.writeTail
  have cut := before_isPrefix TypeName.spacedKeyword (TypeName.untilEnd entry.write)
  have bound : (letters (TypeName.nameText entry.write)).length ≤
      (letters (TypeName.untilEnd entry.write)).length := by
    rw [TypeName.nameText_eq]
    exact (cut.sublist.filter _).length_le
  rw [kept, write] at bound
  omega

/-- Where a name keeps its letters, the keyword is not between spaces in it. -/
theorem not_infix_of_letters {name gap more : List Char} (isGap : IsGap gap)
    (kept : letters (before TypeName.spacedKeyword (name ++ gap ++ more)) = letters name) :
    ¬ TypeName.spacedKeyword <:+: name ++ gap := by
  intro found
  obtain ⟨back, divided⟩ := exists_eq_before_append found
  have gained := congrArg (fun text => (letters text).length) divided
  have two : (letters TypeName.spacedKeyword).length = 2 := by decide
  rw [before_append_of_found (by decide) found] at kept
  simp only [letters_append, letters_gap isGap, kept, List.length_append, List.length_nil]
    at gained
  omega

/-- Where the name of an entry keeps its letters, nothing ends it too early. -/
theorem isRecognised_of_letters (wellFormed : entry.IsWellFormed)
    (kept : letters (TypeName.nameText entry.write) = letters entry.type.name.write) :
    entry.IsRecognised := by
  have plain := plain_of_letters wellFormed kept
  rw [nameText_write wellFormed plain] at kept
  refine ⟨plain, ?_, ?_⟩
  · obtain ⟨more, goesOn⟩ := exists_visible_eq entry
    rw [goesOn, ← List.append_assoc] at kept
    exact not_infix_of_letters (isGap_gapAfterType wellFormed) kept
  · intro delegation direct
    rw [direct, Option.map_some, Option.getD_some] at kept
    obtain ⟨⟨isGap, solid⟩, _, otherSolid⟩ :=
      wellFormed.delegation delegation (delegation_of_direct direct)
    exact spaces_of_letters isGap solid otherSolid kept

/-- The simple name of a type is that of its last identifier. -/
theorem Qualified.simpleName_names (type : Qualified) :
    TypeName.simpleName ⟨type.name.names⟩ = type.last.name := by
  obtain ⟨first, rest⟩ := type
  induction rest generalizing first with
  | nil => rfl
  | cons joint rest ih =>
    rw [last_cons, ← ih joint.segment]
    rfl

/-- A recognised entry is read as the names of its identifiers. -/
theorem IsRecognised.readChars_write (recognised : entry.IsRecognised)
    (wellFormed : entry.IsWellFormed) :
    TypeName.readChars entry.write = some ⟨entry.type.name.names⟩ := by
  obtain ⟨gap, isGap, name⟩ := recognised.nameText_eq wellFormed
  have parts := TypeName.parts_write wellFormed.type.isWellFormed .empty isGap
  rw [List.nil_append] at parts
  rw [TypeName.readChars_eq_some_iff, name, parts]
  exact ⟨rfl, wellFormed.type.nil_notMem_names⟩

/-- An entry of a supertype list is read as the names of its identifiers exactly when type arguments
follow the last identifier only, a delegation directly after it has spaces around its keyword, and
no identifier that is the keyword stands between spaces. The last name is its simple name then. -/
theorem read_write_iff (entry : SupertypeEntry) (wellFormed : entry.IsWellFormed) :
    (TypeName.read (String.ofList entry.write) = some ⟨entry.type.name.names⟩ ↔
        entry.IsRecognised) ∧
      TypeName.simpleName ⟨entry.type.name.names⟩ = entry.type.last.name ∧
      (TypeName.spacedKeyword <:+: entry.type.name.write ++ entry.gapAfterType →
        ∃ word ∈ entry.type.name.words, word.write = keyword) := by
  refine ⟨?_, entry.type.simpleName_names,
    Qualified.exists_keyword_of_found wellFormed.type (isGap_gapAfterType wellFormed)⟩
  rw [TypeName.read, String.toList_ofList]
  constructor
  · intro found
    obtain ⟨parts, _⟩ := TypeName.readChars_eq_some_iff.mp found
    apply isRecognised_of_letters wellFormed
    rw [← TypeName.letters_parts, parts, wellFormed.type.letters_names,
      wellFormed.type.letters_write]
  · intro recognised
    exact recognised.readChars_write wellFormed

/-- An entry with all its parts. -/
def fullEntry : SupertypeEntry where
  type := ⟨⟨⟨"foo", false⟩, none⟩, [⟨[' '], [], ⟨⟨"Base", true⟩, some ['T']⟩⟩]⟩
  nullable := false
  arguments := some ['x']
  delegation := some ⟨['\t'], [' '], ['y']⟩

/-- The entry is read as its names. -/
theorem fullEntry_read : fullEntry.IsWellFormed ∧
    String.ofList fullEntry.write = "foo .\x60Base\x60<T>(x)\tby y" ∧
    TypeName.read (String.ofList fullEntry.write) = some ⟨["foo", "Base"]⟩ := by
  have wellFormed : fullEntry.IsWellFormed := by
    refine ⟨⟨?_, ?_⟩, ?_⟩
    · exact List.forall_mem_cons.mpr ⟨⟨nofun, List.all_eq_true.mp rfl⟩,
        List.forall_mem_singleton.mpr ⟨nofun, List.all_eq_true.mp rfl⟩⟩
    · exact List.forall_mem_singleton.mpr ⟨by decide, by decide⟩
    · intro delegation own
      cases own
      exact ⟨⟨by decide, by decide⟩, by decide, by decide⟩
  have recognised : fullEntry.IsRecognised := by
    refine ⟨List.forall_mem_singleton.mpr rfl, by decide, ?_⟩
    intro delegation direct
    cases direct
  exact ⟨wellFormed, by decide, (read_write_iff fullEntry wellFormed).1.mpr recognised⟩

/-- An entry with a delegation in the next line. -/
def delegatedEntry : SupertypeEntry where
  type := ⟨⟨⟨"Base", false⟩, none⟩, []⟩
  nullable := false
  arguments := none
  delegation := some ⟨['\n'], [' '], ['y']⟩

/-- The entry is not read as its name, but with the delegation. -/
theorem delegatedEntry_misread : delegatedEntry.IsWellFormed ∧
    String.ofList delegatedEntry.write = "Base\nby y" ∧ delegatedEntry.type.name.names = ["Base"] ∧
    TypeName.read "Base\nby y" = some ⟨["Base\nby y"]⟩ := by
  refine ⟨⟨⟨?_, List.forall_mem_nil _⟩, ?_⟩, by decide, rfl, by decide⟩
  · exact List.forall_mem_singleton.mpr ⟨nofun, List.all_eq_true.mp rfl⟩
  · intro delegation own
    cases own
    exact ⟨⟨by decide, by decide⟩, by decide, by decide⟩

end Reading

end SupertypeEntry

end KotlinLint
