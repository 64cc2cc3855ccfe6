import KotlinLint.Proofs.AnnotationEntry.Written

/-!
# Reading written annotations

Reading a text that writes a well-formed annotation gives the annotation, wherever gaps stand in
the text (`AnnotationEntry.read_of_any_spacing`). The parts of an argument list are found because
every argument is a passage, so a comma divides the list exactly where it stands between two
arguments (`Argument.readAll_of_areWritten`). The first equals sign divides a named argument,
since a name has none, and it divides no argument without a name, since a string literal begins
with its double quote (`Argument.read_of_isWritten`). The first opening parenthesis begins the
arguments, since use sites and names have none.
-/

namespace KotlinLint

open Text

/-- The last mark of a text that ends with one. -/
theorem Text.cutLast_concat (mark : Char) (text : List Char) :
    cutLast mark (text ++ [mark]) = some (text, []) := by
  rw [cutLast, List.reverse_concat, cut, if_pos rfl]
  simp only [Option.map_some, List.reverse_reverse, List.reverse_nil]

/-- No character of an argument name is a blank. -/
theorem Argument.isBlank_of_isNameChar {c : Char} (nameChar : isNameChar c = true) :
    isBlank c = false := by
  rw [isNameChar, Bool.or_eq_true, decide_eq_true_eq] at nameChar
  obtain alphanumeric | rfl := nameChar
  · exact isBlank_of_isAlphanumeric alphanumeric
  · rfl

namespace IsIdentifier

variable {name : List Char} (identifier : IsIdentifier name)
include identifier

/-- An identifier has no blanks. -/
theorem solidChars : ∀ c ∈ name, isBlank c = false := fun c listed =>
  Argument.isBlank_of_isNameChar (identifier.chars c listed)

/-- An identifier has no blank at either end. -/
theorem isTight : IsTight name := .of_forall identifier.solidChars

/-- Only characters of names and blanks are in an identifier before a gap. -/
theorem notMem_append {gap : List Char} {mark : Char} (isGap : IsGap gap)
    (notNameChar : Argument.isNameChar mark = false) (notBlank : isBlank mark = false) :
    mark ∉ name ++ gap := by
  intro listed
  rcases List.mem_append.mp listed with inName | inGap
  · exact notMem_of_forall identifier.chars notNameChar inName
  · exact notMem_of_forall isGap notBlank inGap

end IsIdentifier

namespace ArgumentValue

/-- A value is not written by nothing. -/
theorem write_ne_nil {value : ArgumentValue} (wellFormed : value.IsWellFormed) :
    value.write ≠ [] := by
  cases value with
  | text content => exact nofun
  | expression source => exact IsPlainExpression.solid wellFormed

/-- A written value does not begin with an equals sign, also after a gap. -/
theorem head?_gap_write_ne {value : ArgumentValue} {gap : List Char}
    (wellFormed : value.IsWellFormed) (isGap : IsGap gap) :
    (gap ++ value.write).head? ≠ some '=' := by
  cases gap with
  | cons c rest =>
    intro same
    cases same
    exact absurd (isGap '=' (List.mem_cons_self ..)) nofun
  | nil =>
    cases value with
    | text content => exact nofun
    | expression source =>
      intro first
      exact (IsPlainExpression.chars wellFormed _ (List.mem_of_head? first)).2.2 rfl

/-- A written value has no blank at either end. -/
theorem isTight_write {value : ArgumentValue} (wellFormed : value.IsWellFormed) :
    IsTight value.write := by
  cases value with
  | text content => exact Quoted.isTight_write _
  | expression source =>
    exact .of_forall fun c listed => (IsPlainExpression.chars wellFormed c listed).1

/-- No comma within a written value divides a list. -/
theorem passes_write {value : ArgumentValue} (wellFormed : value.IsWellFormed) :
    Scanner.Passes (.outside 0) value.write (.outside 0) := by
  cases value with
  | text content => exact .of_write 0 _
  | expression source =>
    have plain : IsPlainExpression source.toList := wellFormed
    have passes : Scanner.Passes (.outside 0) source.toList
        (.outside (0 + source.toList.countP isOpening - source.toList.countP isClosing)) := by
      refine .of_enclosed (fun listed => (plain.chars _ listed).2.1 rfl) ?_ ?_
      · intro front back whole
        rw [Nat.zero_add]
        exact plain.opened front back whole
      · intro front back whole
        rw [Nat.zero_add]
        exact plain.enclosed front back whole
    rwa [plain.closed, Nat.add_sub_cancel] at passes

/-- Reading a written value gives the value. -/
theorem read_write {value : ArgumentValue} (wellFormed : value.IsWellFormed) :
    read value.write = value := by
  cases value with
  | text content =>
    rw [write, read, Quoted.read_write]
    exact congrArg _ String.ofList_toList
  | expression source =>
    have plain : IsPlainExpression source.toList := wellFormed
    have noLiteral := Quoted.read_eq_none fun listed => (plain.chars _ listed).2.1 rfl
    have solid := squeeze_of_forall fun c listed => (plain.chars c listed).1
    rw [write, read, noLiteral, solid, String.ofList_toList]

end ArgumentValue

namespace Argument

/-- A written value is not taken for a named argument. -/
theorem splitName_write {value : ArgumentValue} (wellFormed : value.IsWellFormed) :
    splitName value.write = none := by
  cases value with
  | expression source =>
    have plain : IsPlainExpression source.toList := wellFormed
    have undivided := cut_eq_none_iff.mpr fun listed => (plain.chars '=' listed).2.2 rfl
    rw [ArgumentValue.write, splitName, undivided]
  | text content =>
    rw [splitName]
    split
    case h_1 => rfl
    case h_2 before after divided =>
      have quoted := Quoted.mem_of_cut_write divided
      exact if_pos (by simp [quoted])

/-- The first equals sign divides a named argument into its name and its value. -/
theorem splitName_named {name before after : List Char} {value : ArgumentValue}
    (identifier : IsIdentifier name) (wellFormed : value.IsWellFormed) (front : IsGap before)
    (back : IsGap after) :
    splitName (name ++ before ++ '=' :: (after ++ value.write)) = some (name, value.write) := by
  have noSign : '=' ∉ name ++ before := identifier.notMem_append front rfl rfl
  have noQuote : '"' ∉ name ++ before := identifier.notMem_append front rfl rfl
  have noSecond := ArgumentValue.head?_gap_write_ne wellFormed back
  have divided : cut '=' (name ++ before ++ '=' :: (after ++ value.write)) =
      some (name ++ before, after ++ value.write) := cut_eq_some_iff.mpr ⟨rfl, noSign⟩
  have nameTrimmed : trim (name ++ before) = name :=
    identifier.isTight.trim_between .empty front
  have valueTrimmed : trim (after ++ value.write) = value.write := by
    have trimmed := (ArgumentValue.isTight_write wellFormed).trim_between back .empty
    rwa [List.append_nil] at trimmed
  have accepted : ((name ++ before).contains '"' ||
      decide ((after ++ value.write).head? = some '=') || name.isEmpty ||
      !name.all isNameChar) = false := by
    rw [List.contains_eq_mem, decide_eq_false noQuote, decide_eq_false noSecond,
      List.isEmpty_eq_false_iff.mpr identifier.solid, List.all_eq_true.mpr identifier.chars]
    rfl
  rw [splitName, divided]
  simp only [nameTrimmed, valueTrimmed, accepted, Bool.false_eq_true, ↓reduceIte]

/-- Reading a text that writes a well-formed argument gives the argument. -/
theorem read_of_isWritten {argument : Argument} {text : List Char}
    (wellFormed : argument.IsWellFormed) (written : argument.IsWritten text) :
    read text = argument := by
  cases written with
  | positional =>
    rw [read, splitName_write wellFormed.value]
    exact congrArg _ (ArgumentValue.read_write wellFormed.value)
  | named front back =>
    rw [read, splitName_named (wellFormed.name _ rfl) wellFormed.value front back]
    simp only [String.ofList_toList, ArgumentValue.read_write wellFormed.value]

/-- A written argument is not empty. -/
theorem IsWritten.ne_nil {argument : Argument} {text : List Char}
    (wellFormed : argument.IsWellFormed) (written : argument.IsWritten text) : text ≠ [] := by
  cases written with
  | positional => exact ArgumentValue.write_ne_nil wellFormed.value
  | named => exact List.append_ne_nil_of_right_ne_nil _ nofun

/-- A written argument has no blank at either end. -/
theorem IsWritten.isTight {argument : Argument} {text : List Char}
    (wellFormed : argument.IsWellFormed) (written : argument.IsWritten text) : IsTight text := by
  have valueTight := ArgumentValue.isTight_write wellFormed.value
  cases written with
  | positional => exact valueTight
  | @named name value before after front back =>
    have identifier := wellFormed.name name rfl
    have tight := identifier.isTight.join valueTight identifier.solid
      (ArgumentValue.write_ne_nil wellFormed.value) (before ++ '=' :: after)
    rwa [← List.append_assoc, List.append_assoc, List.cons_append] at tight

/-- No comma within a written argument divides a list. -/
theorem IsWritten.passes {argument : Argument} {text : List Char}
    (wellFormed : argument.IsWellFormed) (written : argument.IsWritten text) :
    Scanner.Passes (.outside 0) text (.outside 0) := by
  have valuePasses := ArgumentValue.passes_write wellFormed.value
  cases written with
  | positional => exact valuePasses
  | @named name _ _ _ front back =>
    have namePasses : Scanner.Passes (.outside 0) name.toList (.outside 0) :=
      .of_unmarked fun c listed => isMark_eq_false ((wellFormed.name name rfl).chars c listed) rfl
    have signPasses : Scanner.Passes (.outside 0) ['='] (.outside 0) :=
      .of_unmarked (List.forall_mem_singleton.mpr rfl)
    exact (namePasses.append (.of_gap front)).append
      (signPasses.append ((Scanner.Passes.of_gap back).append valuePasses))

/-- A comma after a passage divides the arguments. -/
theorem readAll_comma {text : List Char} (passes : Scanner.Passes (.outside 0) text (.outside 0))
    (rest : List Char) : readAll (text ++ ',' :: rest) = readAll text ++ readAll rest := by
  rw [readAll, passes.splitTopLevel_comma, readAll, passes.splitTopLevel, readAll,
    ← List.singleton_append, List.map_append, List.filter_append, List.map_append]

/-- There is no argument in a gap. -/
theorem readAll_gap {gap : List Char} (isGap : IsGap gap) : readAll gap = [] := by
  rw [readAll, (Scanner.Passes.of_gap isGap).splitTopLevel, List.map_singleton, isGap.trim]
  rfl

/-- A written argument between gaps is the only argument there. -/
theorem readAll_single {argument : Argument} {text before after : List Char}
    (wellFormed : argument.IsWellFormed) (written : argument.IsWritten text)
    (front : IsGap before) (back : IsGap after) :
    readAll (before ++ text ++ after) = [argument] := by
  have solid : text.isEmpty = false := List.isEmpty_eq_false_iff.mpr (written.ne_nil wellFormed)
  rw [readAll, ((written.passes wellFormed).between front back).splitTopLevel,
    List.map_singleton, (written.isTight wellFormed).trim_between front back,
    List.filter_cons_of_pos (by simp [solid]), List.filter_nil, List.map_singleton,
    read_of_isWritten wellFormed written]

/-- Reading a text that writes well-formed arguments gives the arguments. -/
theorem readAll_of_areWritten {arguments : List Argument} {text : List Char}
    (wellFormed : ∀ argument ∈ arguments, argument.IsWellFormed)
    (written : AreWritten arguments text) : readAll text = arguments := by
  induction written with
  | nil isGap => exact readAll_gap isGap
  | last written front back =>
    exact readAll_single (List.forall_mem_singleton.mp wellFormed) written front back
  | cons written front back _ ih =>
    obtain ⟨ownWellFormed, restWellFormed⟩ := List.forall_mem_cons.mp wellFormed
    have passes := (written.passes ownWellFormed).between front back
    rw [readAll_comma passes, readAll_single ownWellFormed written front back, ih restWellFormed,
      List.singleton_append]

end Argument

namespace AnnotationEntry

/-- No character of an annotation name is a blank. -/
theorem isBlank_of_isNameChar {c : Char} (nameChar : isNameChar c = true) : isBlank c = false := by
  rw [isNameChar, Bool.or_eq_true, Bool.or_eq_true, Bool.or_eq_true, decide_eq_true_eq,
    decide_eq_true_eq, decide_eq_true_eq] at nameChar
  obtain ((alphanumeric | rfl) | rfl) | rfl := nameChar
  · exact isBlank_of_isAlphanumeric alphanumeric
  all_goals rfl

/-- The use site and the name are read from the text that writes them. -/
theorem splitUseSite_of_isWrittenHead {entry : AnnotationEntry} {head : List Char}
    (wellFormed : entry.IsWellFormed) (written : IsWrittenHead entry.useSite entry.name head) :
    splitUseSite (squeeze head) = (entry.useSite.map String.toList, entry.name.toList) := by
  obtain ⟨useSite, name, arguments⟩ := entry
  have nameSolid : squeeze name.toList = name.toList := squeeze_of_forall fun c listed =>
    isBlank_of_isNameChar (wellFormed.name c listed)
  cases written with
  | plain front =>
    have noColon : cut ':' name.toList = none :=
      cut_eq_none_iff.mpr (notMem_of_forall wellFormed.name rfl)
    rw [squeeze_append, front.squeeze, List.nil_append, nameSolid, splitUseSite, noColon]
    rfl
  | @targeted site _ _ beforeColon afterColon front middle back =>
    have identifier := wellFormed.useSite site rfl
    have siteSolid : squeeze site.toList = site.toList := squeeze_of_forall identifier.solidChars
    have divided : cut ':' (site.toList ++ ':' :: name.toList) =
        some (site.toList, name.toList) :=
      cut_eq_some_iff.mpr ⟨rfl, notMem_of_forall identifier.chars rfl⟩
    have colon : squeeze (':' :: (afterColon ++ name.toList)) =
        ':' :: squeeze (afterColon ++ name.toList) := rfl
    rw [squeeze_append, squeeze_append, squeeze_append, colon, squeeze_append, front.squeeze,
      siteSolid, middle.squeeze, back.squeeze, nameSolid, List.nil_append, List.append_nil,
      List.nil_append, splitUseSite, divided]
    rfl

/-- No parenthesis opens before the arguments. -/
theorem notMem_of_isWrittenHead {entry : AnnotationEntry} {head : List Char}
    (wellFormed : entry.IsWellFormed) (written : IsWrittenHead entry.useSite entry.name head) :
    '(' ∉ head := by
  obtain ⟨useSite, name, arguments⟩ := entry
  have notInName : '(' ∉ name.toList := notMem_of_forall wellFormed.name rfl
  have notInGap : ∀ {gap : List Char}, IsGap gap → '(' ∉ gap := fun isGap =>
    notMem_of_forall isGap rfl
  cases written with
  | plain front => simp [notInGap front, notInName]
  | @targeted site _ _ _ _ front middle back =>
    have notInSite : '(' ∉ site.toList := notMem_of_forall (wellFormed.useSite site rfl).chars rfl
    simp [notInGap front, notInSite, notInGap middle, notInGap back, notInName]

/-- A written head ends with the name. -/
theorem IsWrittenHead.name_suffix {useSite : Option String} {name : String} {head : List Char}
    (written : IsWrittenHead useSite name head) : name.toList <:+ head := by
  cases written with
  | plain => exact List.suffix_append ..
  | @targeted _ _ _ _ afterColon =>
    have ending := (List.suffix_append afterColon name.toList).trans (List.suffix_cons ':' _)
    exact ending.trans (List.suffix_append ..)

/-- An annotation is read from its parts. -/
theorem readChars_of_parts {entry : AnnotationEntry} {text body head list : List Char}
    (wellFormed : entry.IsWellFormed) (trimmed : trim text = '@' :: body)
    (divided : splitArguments body = some (head, list))
    (named : splitUseSite (squeeze head) = (entry.useSite.map String.toList, entry.name.toList))
    (listed : Argument.readAll list = entry.arguments) : readChars text = some entry := by
  have accepted : (entry.name.toList.isEmpty || !entry.name.toList.all isNameChar) = false := by
    rw [List.isEmpty_eq_false_iff.mpr wellFormed.solid, List.all_eq_true.mpr wellFormed.name]
    rfl
  have sameSite : (entry.useSite.map String.toList).map String.ofList = entry.useSite := by
    cases entry.useSite with
    | none => rfl
    | some site => exact congrArg some String.ofList_toList
  rw [readChars, trimmed]
  simp only [divided, named, accepted, listed, sameSite, String.ofList_toList,
    Bool.false_eq_true, ↓reduceIte]

/-- Reading the characters that write a well-formed annotation gives the annotation. -/
theorem readChars_of_isWritten {entry : AnnotationEntry} {text : List Char}
    (wellFormed : entry.IsWellFormed) (written : entry.IsWritten text) :
    readChars text = some entry := by
  have sign : IsTight ['@'] := .of_forall (List.forall_mem_singleton.mpr rfl)
  cases written with
  | @bare useSite name head before after headWritten front back =>
    obtain ⟨others, whole⟩ := headWritten.name_suffix
    have nameTight : IsTight name.toList :=
      .of_forall fun c listed => isBlank_of_isNameChar (wellFormed.name c listed)
    have tight : IsTight ('@' :: head) := by
      rw [← whole]
      exact sign.join nameTight nofun wellFormed.solid others
    have divided : splitArguments head = some (head, []) := by
      rw [splitArguments, cut_eq_none_iff.mpr (notMem_of_isWrittenHead wellFormed headWritten)]
    exact readChars_of_parts wellFormed (tight.trim_between front back) divided
      (splitUseSite_of_isWrittenHead wellFormed headWritten) (Argument.readAll_gap .empty)
  | @listed _ head list before gap after headWritten listWritten front isGap back =>
    have closing : IsTight [')'] := .of_forall (List.forall_mem_singleton.mpr rfl)
    have tight := sign.join closing nofun nofun (head ++ gap ++ '(' :: list)
    have opens : cut '(' (head ++ gap ++ '(' :: (list ++ [')'])) =
        some (head ++ gap, list ++ [')']) := by
      refine cut_eq_some_iff.mpr ⟨rfl, fun listed => ?_⟩
      rcases List.mem_append.mp listed with inHead | inGap
      · exact notMem_of_isWrittenHead wellFormed headWritten inHead
      · exact notMem_of_forall isGap rfl inGap
    have divided : splitArguments (head ++ gap ++ '(' :: (list ++ [')'])) =
        some (head ++ gap, list) := by
      rw [splitArguments, opens]
      simp only [cutLast_concat, List.all_nil, ↓reduceIte]
    have named : splitUseSite (squeeze (head ++ gap)) =
        (entry.useSite.map String.toList, entry.name.toList) := by
      rw [squeeze_append, isGap.squeeze, List.append_nil]
      exact splitUseSite_of_isWrittenHead wellFormed headWritten
    refine readChars_of_parts wellFormed ?_ divided named
      (Argument.readAll_of_areWritten wellFormed.arguments listWritten)
    have trimmed := tight.trim_between front back
    simpa using trimmed

/-- Every well-formed annotation is written by some text, each text that writes it is read as it,
and so texts that write it with other gaps are read alike. -/
theorem read_of_any_spacing {entry : AnnotationEntry} (wellFormed : entry.IsWellFormed) :
    (∃ text : String, entry.IsWritten text.toList) ∧
      (∀ text : String, entry.IsWritten text.toList → read text = some entry) ∧
      ∀ text other : String, entry.IsWritten text.toList → entry.IsWritten other.toList →
        read text = read other := by
  have reads : ∀ text : String, entry.IsWritten text.toList → read text = some entry :=
    fun _ written => readChars_of_isWritten wellFormed written
  refine ⟨entry.exists_isWritten, reads, ?_⟩
  intro text other written otherWritten
  rw [reads text written, reads other otherWritten]

/-- An annotation whose string says an equals sign, brackets, quotes, a comma and a dollar sign. -/
def markedEntry : AnnotationEntry :=
  ⟨some "field", "SerialName",
    [⟨some "value", .text "a=(\"b\",$c"⟩, ⟨none, .expression "listOf(1,2)"⟩]⟩

/-- A text that writes it with gaps, and with a comma after the last argument. -/
def markedText : String :=
  " @ field :SerialName ( value= \"a=(\\\"b\\\",\\$c\" ,\tlistOf(1,2) , )\n"

/-- The marks in the string and in the expression divide nothing. -/
theorem read_markedText : markedEntry.IsWellFormed ∧ read markedText = some markedEntry := by
  have wellFormed : markedEntry.IsWellFormed := by
    refine ⟨?_, nofun, List.all_eq_true.mp rfl, ?_⟩
    · rintro site ⟨⟩
      exact ⟨nofun, List.all_eq_true.mp rfl⟩
    · have plain : IsPlainExpression "listOf(1,2)".toList := by decide
      refine List.forall_mem_cons.mpr ⟨?_, List.forall_mem_singleton.mpr ⟨nofun, plain⟩⟩
      constructor
      · rintro name ⟨⟩
        exact ⟨nofun, List.all_eq_true.mp rfl⟩
      · trivial
  have blank : IsGap [' '] := by decide
  have head : IsWrittenHead (some "field") "SerialName"
      ([' '] ++ "field".toList ++ [' '] ++ ':' :: ([] ++ "SerialName".toList)) :=
    .targeted blank blank .empty
  have value : Argument.IsWritten ⟨some "value", .text "a=(\"b\",$c"⟩
      ("value".toList ++ [] ++ '=' :: ([' '] ++ "\"a=(\\\"b\\\",\\$c\"".toList)) :=
    .named .empty blank
  have expression : Argument.IsWritten ⟨none, .expression "listOf(1,2)"⟩ "listOf(1,2)".toList :=
    .positional
  have list := Argument.AreWritten.cons value blank blank
    (.cons expression (by decide : IsGap ['\t']) blank (.nil blank))
  have written : markedEntry.IsWritten _ :=
    .listed head list blank blank (by decide : IsGap ['\n'])
  exact ⟨wellFormed, (read_of_any_spacing wellFormed).2.1 markedText written⟩

end AnnotationEntry

end KotlinLint
