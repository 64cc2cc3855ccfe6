import KotlinLint.Proofs.Text.Division
import KotlinLint.Proofs.TypeName.Written

/-!
# Spelled types

The parts of a written name are the words of the name, whatever blanks are around its dots
(`TypeName.parts_write`). Neither cutting nor trimming removes letters, so what a text is read as
has the letters of the part that was kept (`TypeName.letters_parts`). A type whose type arguments
follow its last identifier is its name and they (`SupertypeEntry.Qualified.write_eq`); any others
cut off some letters of the name (`length_letters_lt`).
-/

namespace KotlinLint

open Text

namespace TypeName

/-- The keyword of a delegation between two spaces. -/
def spacedKeyword : List Char := ' ' :: SupertypeEntry.keyword ++ [' ']

/-- The part of a text before the first character that ends a name. -/
def untilEnd (text : List Char) : List Char := text.takeWhile fun c => !endsName c

/-- The end of the name can be looked for before the keyword. -/
theorem nameText_eq (text : List Char) : nameText text = before spacedKeyword (untilEnd text) :=
  takeWhile_before (List.all_eq_true.mp rfl) text

/-- A text that does not end the name is before its end. -/
theorem untilEnd_append {front : List Char} (goesOn : ∀ c ∈ front, endsName c = false)
    (back : List Char) : untilEnd (front ++ back) = front ++ untilEnd back := by
  apply List.takeWhile_append_of_pos
  intro c listed
  rw [goesOn c listed]
  rfl

/-- Nothing is before the end of the name at the end. -/
theorem untilEnd_cons {c : Char} (ends : endsName c = true) (rest : List Char) :
    untilEnd (c :: rest) = [] := by
  apply List.takeWhile_cons_of_neg
  rw [ends]
  decide

/-- What ends a name is neither a letter, a backquote, a blank nor a dot. -/
theorem kinds_of_endsName {c : Char} (ends : endsName c = true) :
    Argument.isNameChar c = false ∧ c ≠ backquote ∧ isBlank c = false ∧ c ≠ '.' := by
  simp only [endsName, Bool.or_eq_true, decide_eq_true_eq] at ends
  rcases ends with (rfl | rfl) | rfl
  · decide
  · decide
  · decide

/-- The parts between the dots of a text, without blanks and backquotes around them. -/
def parts (text : List Char) : List (List Char) :=
  (splitOn '.' text).map fun part => unquote (trim part)

/-- No character of a text without dots is a dot. -/
theorem forall_ne_dot {text : List Char} (noDot : '.' ∉ text) : ∀ c ∈ text, (c == '.') = false := by
  intro c listed
  rw [beq_eq_false_iff_ne]
  intro dot
  exact noDot (dot ▸ listed)

/-- A text without dots is one part. -/
theorem parts_single {text : List Char} (noDot : '.' ∉ text) :
    parts text = [unquote (trim text)] := by
  rw [parts, splitOn, splitWhere_eq, List.splitOnP_eq_singleton (forall_ne_dot noDot),
    List.map_singleton]

/-- The parts of a text are those before a dot and those after it. -/
theorem parts_append_cons (front back : List Char) :
    parts (front ++ '.' :: back) = parts front ++ parts back := by
  rw [parts, parts, parts, splitOn, splitOn, splitOn, splitWhere_eq, splitWhere_eq, splitWhere_eq,
    List.splitOnP_append_cons _ _ rfl, List.map_append]

/-- A word is the only part of its text, whatever blanks are around it. -/
theorem parts_word {word : Word} (wellFormed : word.IsWellFormed) {front back : List Char}
    (before : IsGap front) (after : IsGap back) :
    parts (front ++ word.write ++ back) = [word.name.toList] := by
  have solid := wellFormed.isSolid
  have noBlank : isBlank '.' = false := rfl
  have noDot : '.' ∉ front ++ word.write ++ back := by
    simp only [List.mem_append, not_or]
    exact ⟨⟨notMem_of_forall before noBlank, fun listed => (solid.chars _ listed).2 rfl⟩,
      notMem_of_forall after noBlank⟩
  have tight : IsTight word.write := .of_forall solid.noBlanks
  rw [parts_single noDot, tight.trim_between before after, Word.unquote_write wellFormed]

/-- The parts of a written name are its words, whatever blanks are around it. -/
theorem parts_write {name : DottedName} (wellFormed : name.IsWellFormed) {front back : List Char}
    (before : IsGap front) (after : IsGap back) :
    parts (front ++ name.write ++ back) = name.names.map String.toList := by
  obtain ⟨first, rest⟩ := name
  induction rest generalizing first front with
  | nil =>
    have word := wellFormed.words first List.mem_cons_self
    rw [DottedName.write_single, parts_word word before after]
    rfl
  | cons link rest ih =>
    have word := wellFormed.words first List.mem_cons_self
    obtain ⟨beforeDot, afterDot⟩ := wellFormed.gaps link List.mem_cons_self
    have regroup : front ++ DottedName.write ⟨first, link :: rest⟩ ++ back =
        (front ++ first.write ++ link.before) ++
          '.' :: (link.after ++ DottedName.write ⟨link.word, rest⟩ ++ back) := by
      rw [DottedName.write_cons]
      simp
    rw [regroup, parts_append_cons, parts_word word before beforeDot,
      ih afterDot link.word wellFormed.tail]
    rfl

/-- The letters of a text are those of its parts. -/
theorem letters_parts (text : List Char) : (parts text).flatMap letters = letters text := by
  have stripped : ∀ part : List Char, letters (unquote (trim part)) = letters part := by
    intro part
    have unquoted : letters (unquote (trim part)) = letters (trim part) := by
      apply filter_stripWhile
      intro c quotes
      rw [beq_iff_eq.mp quotes]
      rfl
    rw [unquoted]
    exact filter_stripWhile (fun c blank => isNameChar_of_isBlank blank) part
  rw [parts, List.flatMap_map]
  simp only [stripped]
  apply flatMap_filter_splitWhere
  intro c separates
  rw [beq_iff_eq.mp separates]
  rfl

/-- Some texts are the characters of some strings when the strings are made of the texts. -/
theorem map_ofList_eq_iff {list : List (List Char)} {segments : List String} :
    list.map String.ofList = segments ↔ list = segments.map String.toList := by
  constructor
  · rintro rfl
    rw [List.map_map]
    exact (List.map_id'' (fun _ => String.toList_ofList) list).symm
  · rintro rfl
    rw [List.map_map]
    exact List.map_id'' (fun _ => String.ofList_toList) segments

/-- A text is read when no part of its name is empty. -/
theorem readChars_eq_some_iff {text : List Char} {segments : List String} :
    readChars text = some ⟨segments⟩ ↔
      parts (nameText text) = segments.map String.toList ∧ [] ∉ parts (nameText text) := by
  have empty : (parts (nameText text)).any List.isEmpty = true ↔ [] ∈ parts (nameText text) := by
    rw [List.any_eq_true]
    simp only [List.isEmpty_iff, exists_eq_right]
  have read : readChars text = if (parts (nameText text)).any List.isEmpty then none
      else some ⟨(parts (nameText text)).map String.ofList⟩ := rfl
  rw [read, ← map_ofList_eq_iff, ← empty]
  by_cases missing : (parts (nameText text)).any List.isEmpty = true
  · simp [missing]
  · simp [missing]

end TypeName

namespace SupertypeEntry

namespace Qualified

variable {type : Qualified} {first : Segment} {joint : Joint} {rest : List Joint}

/-- The first identifier of a type with the dot after it and the blanks around the dot. -/
def lead (first : Segment) (joint : Joint) : List Char :=
  first.toWord.write ++ joint.before ++ '.' :: joint.after

/-- The name of a type is written from its first identifier on. -/
theorem write_name_cons (first : Segment) (joint : Joint) (rest : List Joint) :
    (name ⟨first, joint :: rest⟩).write =
      lead first joint ++ (name ⟨joint.segment, rest⟩).write := by
  have own := DottedName.write_cons first.toWord joint.link (rest.map Joint.link)
  rw [lead, List.append_assoc _ _ (DottedName.write _), List.cons_append]
  exact own

/-- A type is written from its first identifier on. -/
theorem write_cons (first : Segment) (joint : Joint) (rest : List Joint) :
    write ⟨first, joint :: rest⟩ =
      first.write ++ joint.before ++ '.' :: (joint.after ++ write ⟨joint.segment, rest⟩) := by
  simp [write, Joint.write]

/-- The last identifier is not the first one when there are more. -/
theorem last_cons (first : Segment) (joint : Joint) (rest : List Joint) :
    last ⟨first, joint :: rest⟩ = last ⟨joint.segment, rest⟩ := by
  cases rest with
  | nil => rfl
  | cons other others =>
    rw [last, last, List.getLast?_cons_cons]
    cases found : (other :: others).getLast? with
    | none => cases List.getLast?_eq_none_iff.mp found
    | some final => rfl

/-- The first one of more identifiers is a qualifier. -/
theorem qualifiers_cons (first : Segment) (joint : Joint) (rest : List Joint) :
    qualifiers ⟨first, joint :: rest⟩ = first :: qualifiers ⟨joint.segment, rest⟩ := rfl

/-- A first identifier with the dot after it has the letters of its name. -/
theorem letters_lead (named : (name ⟨first, joint :: rest⟩).IsOfIdentifiers) :
    letters (lead first joint) = first.name.toList := by
  have own := Word.letters_write (named.words first.toWord List.mem_cons_self)
  obtain ⟨before, after⟩ : IsGap joint.before ∧ IsGap joint.after :=
    named.gaps joint.link List.mem_cons_self
  have dot : letters ['.'] = [] := rfl
  rw [lead, ← List.singleton_append, letters_append, letters_append, letters_append, own,
    letters_gap before, dot, letters_gap after, List.append_nil, List.append_nil, List.append_nil]

/-- A type with type arguments after the last identifier only is its name and they. -/
theorem write_eq (plain : ∀ segment ∈ type.qualifiers, segment.typeArguments = none) :
    type.write = type.name.write ++ enclose '<' '>' type.last.typeArguments := by
  obtain ⟨first, rest⟩ := type
  induction rest generalizing first with
  | nil => simp [write, name, DottedName.write, Segment.write, last]
  | cons joint rest ih =>
    rw [qualifiers_cons] at plain
    obtain ⟨here, later⟩ := List.forall_mem_cons.mp plain
    have own : first.write = first.toWord.write := by
      rw [Segment.write, here, enclose, List.append_nil]
    rw [write_cons, write_name_cons, lead, last_cons, own, ih joint.segment later]
    simp

/-- Only an identifier that is the keyword can be the keyword between spaces in a name. -/
theorem exists_keyword_of_found (named : type.name.IsOfIdentifiers) {gap : List Char}
    (isGap : IsGap gap) (found : TypeName.spacedKeyword <:+: type.name.write ++ gap) :
    ∃ word ∈ type.name.words, word.write = keyword := by
  obtain ⟨front, back, whole⟩ := found
  have split : type.name.write ++ gap = front ++ ' ' :: (keyword ++ ' ' :: back) := by
    rw [← whole]
    simp [TypeName.spacedKeyword]
  have solid : ∀ c ∈ keyword, isBlank c = false :=
    List.forall_mem_cons.mpr ⟨rfl, List.forall_mem_singleton.mpr rfl⟩
  obtain ⟨word, isWord, same⟩ := DottedName.exists_word_between named.isDivided isGap
    rfl rfl (List.cons_ne_nil _ _) solid (by decide) split
  exact ⟨word, isWord, same.symm⟩

/-- The name of a type does not end the name that is read. -/
theorem endsName_of_mem_name (named : type.name.IsOfIdentifiers) :
    ∀ c ∈ type.name.write, TypeName.endsName c = false := by
  intro c listed
  rw [← Bool.not_eq_true]
  intro ends
  obtain ⟨noLetter, noQuote, noBlank, noDot⟩ := TypeName.kinds_of_endsName ends
  exact named.notMem_write noLetter noQuote noBlank noDot listed

/-- A first identifier with the dot after it does not end the name. -/
theorem endsName_of_mem_lead (named : (name ⟨first, joint :: rest⟩).IsOfIdentifiers) :
    ∀ c ∈ lead first joint, TypeName.endsName c = false := by
  intro c listed
  apply endsName_of_mem_name named
  rw [write_name_cons]
  exact List.mem_append_left _ listed

/-- Type arguments of the first identifier end the name there. -/
theorem untilEnd_of_first (named : (name ⟨first, joint :: rest⟩).IsOfIdentifiers)
    {inner : List Char} (given : first.typeArguments = some inner) (tail : List Char) :
    TypeName.untilEnd (write ⟨first, joint :: rest⟩ ++ tail) = first.toWord.write := by
  have goesOn : ∀ c ∈ first.toWord.write, TypeName.endsName c = false := by
    intro c listed
    apply endsName_of_mem_lead named
    exact List.mem_append_left _ (List.mem_append_left _ listed)
  rw [write_cons, Segment.write, given]
  simp only [enclose, List.append_assoc, List.cons_append]
  rw [TypeName.untilEnd_append goesOn, TypeName.untilEnd_cons rfl, List.append_nil]

/-- Without type arguments of the first identifier the name goes on behind the dot. -/
theorem untilEnd_of_later (named : (name ⟨first, joint :: rest⟩).IsOfIdentifiers)
    (bare : first.typeArguments = none) (tail : List Char) :
    TypeName.untilEnd (write ⟨first, joint :: rest⟩ ++ tail) =
      lead first joint ++ TypeName.untilEnd (write ⟨joint.segment, rest⟩ ++ tail) := by
  have written : write ⟨first, joint :: rest⟩ ++ tail =
      lead first joint ++ (write ⟨joint.segment, rest⟩ ++ tail) := by
    rw [write_cons, Segment.write, bare, enclose, lead]
    simp
  rw [written, TypeName.untilEnd_append (endsName_of_mem_lead named)]

/-- Type arguments before the last identifier cut off letters of the name. -/
theorem length_letters_lt (named : type.name.IsOfIdentifiers)
    (given : ∃ segment ∈ type.qualifiers, segment.typeArguments ≠ none) (tail : List Char) :
    (letters (TypeName.untilEnd (type.write ++ tail))).length <
      (letters type.name.write).length := by
  obtain ⟨first, rest⟩ := type
  induction rest generalizing first with
  | nil =>
    obtain ⟨_, listed, _⟩ := given
    cases listed
  | cons joint rest ih =>
    have later : (name ⟨joint.segment, rest⟩).IsOfIdentifiers := named.tail
    rw [write_name_cons, letters_append, letters_lead named, List.length_append]
    cases ofFirst : first.typeArguments with
    | some inner =>
      have own := Word.letters_write (named.words first.toWord List.mem_cons_self)
      have positive := List.length_pos_iff.mpr later.letters_write_ne_nil
      rw [untilEnd_of_first named ofFirst, own]
      omega
    | none =>
      have further : ∃ segment ∈ qualifiers ⟨joint.segment, rest⟩,
          segment.typeArguments ≠ none := by
        obtain ⟨segment, listed, has⟩ := given
        rw [qualifiers_cons] at listed
        rcases List.mem_cons.mp listed with rfl | later
        · exact absurd ofFirst has
        · exact ⟨segment, later, has⟩
      have shorter := ih joint.segment later further
      rw [untilEnd_of_later named ofFirst, letters_append, letters_lead named, List.length_append]
      omega

end Qualified

end SupertypeEntry

end KotlinLint
