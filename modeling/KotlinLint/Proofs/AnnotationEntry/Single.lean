import KotlinLint.Proofs.AnnotationEntry.Parts

/-!
# Single annotations

A text of one annotation can be read, but so can other texts. The reader accepts exactly the texts
with readable parts, and such a text is one annotation exactly when its parts are those of one
(`AnnotationEntry.read_eq_some_iff_and_pair_isSome_iff`). Two annotations after each other are read
as one exactly when both have argument lists, since the list reaches to the last parenthesis, or
when the first has neither list nor use site and the second has a use site, since everything before
the first colon is the use site (`AnnotationEntry.Parts.pair_iff`).
-/

namespace KotlinLint

open Text

/-- Whether a parenthesis is closed only after a text can be seen at each place of it. -/
theorem Text.isClosed_iff_places {inner : List Char} : IsClosed inner ↔
    (∀ place < inner.length, (Scanner.outside 1).scan (inner.take place) ≠ .outside 0) ∧
      (Scanner.outside 1).scan inner = .outside 1 := by
  constructor
  · intro closed
    exact ⟨fun place _ => closed.within _ (List.take_prefix place inner), closed.settled⟩
  · rintro ⟨places, settled⟩
    refine ⟨fun front starts => ?_, settled⟩
    rw [List.prefix_iff_eq_take.mp starts]
    by_cases before : front.length < inner.length
    · exact places front.length before
    · rw [List.take_of_length_le (Nat.not_lt.mp before), settled]
      exact nofun

instance (inner : List Char) : Decidable (IsClosed inner) :=
  decidable_of_iff _ isClosed_iff_places.symm

/-- Trimming removes only blanks. -/
theorem Text.isBlank_or_mem_trim {text : List Char} {c : Char} (listed : c ∈ text) :
    isBlank c = true ∨ c ∈ trim text := by
  obtain ⟨front, back, whole, before, after⟩ := (isStripped_stripWhile isBlank text).removed
  rw [whole] at listed
  rcases List.mem_append.mp listed with inFront | inBack
  · rcases List.mem_append.mp inFront with blank | kept
    · exact .inl (before c blank)
    · exact .inr kept
  · exact .inl (after c inBack)

/-- Two texts with a gap between them are trimmed to the trimmed texts, with a gap between. -/
theorem Text.exists_trim_append {first second gap : List Char} (isGap : IsGap gap)
    (solid : trim first ≠ []) (otherSolid : trim second ≠ []) :
    ∃ between, IsGap between ∧
      trim (first ++ gap ++ second) = trim first ++ between ++ trim second := by
  have firstStripped := isStripped_stripWhile isBlank first
  have secondStripped := isStripped_stripWhile isBlank second
  obtain ⟨front, inner, whole, before, innerGap⟩ := firstStripped.removed
  obtain ⟨otherInner, back, otherWhole, otherGap, after⟩ := secondStripped.removed
  have tight : IsTight (trim first) := ⟨firstStripped.starts, firstStripped.ends⟩
  have otherTight : IsTight (trim second) := ⟨secondStripped.starts, secondStripped.ends⟩
  refine ⟨inner ++ gap ++ otherInner, ?_, ?_⟩
  · intro c listed
    simp only [List.mem_append] at listed
    rcases listed with (inInner | inGap) | inOther
    · exact innerGap c inInner
    · exact isGap c inGap
    · exact otherGap c inOther
  · have joined := tight.join otherTight solid otherSolid (inner ++ gap ++ otherInner)
    have regroup : first ++ gap ++ second =
        front ++ (trim first ++ (inner ++ gap ++ otherInner) ++ trim second) ++ back := by
      calc first ++ gap ++ second
          = front ++ trim first ++ inner ++ gap ++ second := congrArg (· ++ gap ++ second) whole
        _ = front ++ trim first ++ inner ++ gap ++ (otherInner ++ trim second ++ back) :=
          congrArg (front ++ trim first ++ inner ++ gap ++ ·) otherWhole
        _ = front ++ (trim first ++ (inner ++ gap ++ otherInner) ++ trim second) ++ back := by simp
    rw [regroup, joined.trim_between before after]

namespace AnnotationEntry

namespace Parts

variable {parts other : Parts}

/-- The parts of one annotation are readable. -/
theorem IsSingle.isReadable (single : parts.IsSingle) : parts.IsReadable where
  useSite site own := by
    have identifier := single.useSite site own
    have notIn : ∀ mark, Argument.isNameChar mark = false → isBlank mark = false → mark ∉ site := by
      intro mark noNameChar solid listed
      rcases isBlank_or_mem_trim listed with blank | kept
      · rw [solid] at blank
        cases blank
      · exact notMem_of_forall identifier.chars noNameChar kept
    exact ⟨notIn ':' rfl rfl, notIn '(' rfl rfl⟩
  chars c listed := (isBlank_or_mem_trim listed).imp_right (single.chars c)
  solid := by
    obtain ⟨c, rest, whole⟩ := List.exists_cons_of_ne_nil single.solid
    have inTrimmed : c ∈ trim parts.name := by simp [whole]
    have notBlank := isBlank_of_isNameChar (single.chars c inTrimmed)
    have listed : c ∈ parts.name := by
      obtain ⟨front, back, own, _⟩ := (isStripped_stripWhile isBlank parts.name).removed
      rw [own]
      exact List.mem_append_left _ (List.mem_append_right _ inTrimmed)
    exact List.ne_nil_of_mem (List.mem_filter.mpr ⟨listed, by simp [notBlank]⟩)

/-- Parts without an argument list end with a character of the name. -/
theorem exists_getLast?_write (readable : parts.IsReadable) (bare : parts.list = none) :
    ∃ c ∈ parts.name, parts.write.getLast? = some c := by
  have filled : parts.name ≠ [] := by
    intro empty
    apply readable.solid
    rw [empty]
    rfl
  obtain ⟨c, last⟩ := Option.isSome_iff_exists.mp (List.getLast?_isSome.mpr filled)
  refine ⟨c, List.mem_of_getLast? last, ?_⟩
  have nothing : parts.writeList = [] := by rw [writeList, bare]
  rw [write, nothing, List.append_nil]
  cases own : parts.useSite with
  | none => rw [head_of_none own, List.getLast?_cons, last, Option.getD_some]
  | some site =>
    rw [head_of_some own, ← List.cons_append, List.getLast?_append, List.getLast?_cons, last,
      Option.getD_some, Option.some_or]

/-- With two argument lists a pair has one list, from the first parenthesis to the last. -/
theorem exists_pair_of_lists (readable : parts.IsReadable) {inner otherInner between : List Char}
    (own : parts.list = some inner) (its : other.list = some otherInner) :
    ∃ pair : Parts, pair.IsReadable ∧ parts.write ++ between ++ other.write = pair.write := by
  refine ⟨⟨parts.useSite, parts.name,
    some (inner ++ ')' :: (between ++ '@' :: (other.head ++ '(' :: otherInner)))⟩,
    ⟨readable.useSite, readable.chars, readable.solid⟩, ?_⟩
  simp only [write, writeList, own, its, head]
  simp

/-- Without a list and a use site, but with a use site of the second, all before the colon is the
use site of a pair. -/
theorem exists_pair_of_useSite (readable : parts.IsReadable) (otherReadable : other.IsReadable)
    {site between : List Char} (isGap : IsGap between) (bare : parts.list = none)
    (plain : parts.useSite = none) (its : other.useSite = some site) :
    ∃ pair : Parts, pair.IsReadable ∧ parts.write ++ between ++ other.write = pair.write := by
  have absent : ∀ mark, isBlank mark = false → isNameChar mark = false → mark ≠ '@' →
      mark ∉ site → mark ∉ parts.name ++ between ++ '@' :: site := by
    intro mark solid noNameChar noSign notInSite
    have notInName := readable.notMem_name solid noNameChar
    have notInGap : mark ∉ between := notMem_of_forall isGap solid
    simp [notInName, notInGap, noSign, notInSite]
  obtain ⟨noColon, noParenthesis⟩ := otherReadable.useSite site its
  refine ⟨⟨some (parts.name ++ between ++ '@' :: site), other.name, other.list⟩,
    ⟨?_, otherReadable.chars, otherReadable.solid⟩, ?_⟩
  · rintro both ⟨⟩
    exact ⟨absent ':' rfl rfl (by decide) noColon, absent '(' rfl rfl (by decide) noParenthesis⟩
  · simp only [write, writeList, bare, head, plain, its]
    simp

/-- The parts of a pair whose first annotation has a list are those of a pair with two lists. -/
theorem isSome_list_of_pair {pair : Parts} (otherReadable : other.IsReadable)
    (pairReadable : pair.IsReadable) {inner between : List Char} (own : parts.list = some inner)
    (whole : parts.write ++ between ++ other.write = pair.write) : other.list.isSome = true := by
  cases its : other.list with
  | some otherInner => rfl
  | none =>
    obtain ⟨c, inName, last⟩ := exists_getLast?_write otherReadable its
    cases ofPair : pair.list with
    | none =>
      -- The parenthesis of the first list would be in the head of the pair.
      have opens : '(' ∈ pair.write := by
        rw [← whole]
        simp [write, writeList, own]
      rw [write, writeList, ofPair, List.append_nil] at opens
      rcases List.mem_cons.mp opens with sign | inHead
      · cases sign
      · exact absurd inHead pairReadable.notMem_head
    | some pairInner =>
      -- The list of the pair would end the name of the second annotation.
      have ends : pair.write.getLast? = some ')' := by
        simp [write, writeList, ofPair, List.getLast?_cons, List.getLast?_append]
      rw [← whole, List.getLast?_append, last, Option.some_or, Option.some.injEq] at ends
      rw [ends] at inName
      exact absurd inName (otherReadable.notMem_name rfl rfl)

/-- A pair that is read and whose first annotation has no list has a use site of the second one
only. -/
theorem useSites_of_pair {pair : Parts} (readable : parts.IsReadable)
    (otherReadable : other.IsReadable) (pairReadable : pair.IsReadable) {between : List Char}
    (isGap : IsGap between) (bare : parts.list = none)
    (whole : parts.write ++ between ++ other.write = pair.write) :
    parts.useSite = none ∧ other.useSite.isSome = true := by
  have noSign : '@' ∉ pair.name := pairReadable.notMem_name rfl rfl
  have noColon : ':' ∉ pair.name := pairReadable.notMem_name rfl rfl
  have noParenthesis : '(' ∉ parts.head ++ between ++ '@' :: other.head := by
    have notInGap : '(' ∉ between := notMem_of_forall isGap rfl
    simp [readable.notMem_head, notInGap, otherReadable.notMem_head]
  have regroup : (parts.head ++ between ++ '@' :: other.head) ++ other.writeList =
      pair.head ++ pair.writeList := by
    have nothing : parts.writeList = [] := by rw [writeList, bare]
    rw [write, write, write, nothing] at whole
    simpa using whole
  obtain ⟨heads, _⟩ := append_inj_of_mark noParenthesis pairReadable.notMem_head
    other.head?_writeList pair.head?_writeList regroup
  cases own : parts.useSite with
  | some site =>
    -- Behind the colon of the first annotation is the at sign of the second one.
    exfalso
    rw [head_of_some own] at heads
    cases ofPair : pair.useSite with
    | none =>
      rw [head_of_none ofPair] at heads
      exact noColon (heads ▸ by simp)
    | some pairSite =>
      have begins : ∀ (text : List Char) (c : Char), (':' :: text).head? = some c → c = ':' :=
        fun _ _ first => (Option.some.inj first).symm
      rw [head_of_some ofPair, List.append_assoc, List.append_assoc] at heads
      obtain ⟨_, names⟩ := append_inj_of_mark (readable.useSite site own).1
        (pairReadable.useSite pairSite ofPair).1 (begins _) (begins _) heads
      have sameName := (List.cons.inj names).2
      exact noSign (sameName ▸ by simp)
  | none =>
    refine ⟨rfl, ?_⟩
    cases its : other.useSite with
    | some site => rfl
    | none =>
      -- Without a colon the at sign of the second annotation is in the name.
      rw [head_of_none own, head_of_none its] at heads
      have noColonAtAll : ':' ∉ parts.name ++ between ++ '@' :: other.name := by
        have notInName : ':' ∉ parts.name := readable.notMem_name rfl rfl
        have notInOther : ':' ∉ other.name := otherReadable.notMem_name rfl rfl
        have notInGap : ':' ∉ between := notMem_of_forall isGap rfl
        simp [notInName, notInGap, notInOther]
      cases ofPair : pair.useSite with
      | some pairSite =>
        rw [heads, head_of_some ofPair] at noColonAtAll
        simp at noColonAtAll
      | none =>
        rw [head_of_none ofPair] at heads
        exact absurd (heads ▸ by simp) noSign

/-- Two annotations after each other have the parts of one exactly when both have argument lists, or
when only the second has a use site and the first has no list. -/
theorem pair_iff (readable : parts.IsReadable) (otherReadable : other.IsReadable)
    {between : List Char} (isGap : IsGap between) :
    (∃ pair : Parts, pair.IsReadable ∧ parts.write ++ between ++ other.write = pair.write) ↔
      (parts.list.isSome = true ∧ other.list.isSome = true) ∨
        parts.list = none ∧ parts.useSite = none ∧ other.useSite.isSome = true := by
  constructor
  · rintro ⟨pair, pairReadable, whole⟩
    cases own : parts.list with
    | none =>
      exact .inr ⟨rfl, useSites_of_pair readable otherReadable pairReadable isGap own whole⟩
    | some inner => exact .inl ⟨rfl, isSome_list_of_pair otherReadable pairReadable own whole⟩
  · rintro (⟨hasList, otherHasList⟩ | ⟨bare, plain, targeted⟩)
    · obtain ⟨inner, own⟩ := Option.isSome_iff_exists.mp hasList
      obtain ⟨otherInner, its⟩ := Option.isSome_iff_exists.mp otherHasList
      exact exists_pair_of_lists readable own its
    · obtain ⟨site, its⟩ := Option.isSome_iff_exists.mp targeted
      exact exists_pair_of_useSite readable otherReadable isGap bare plain its

end Parts

/-- Whether a text is one annotation with blanks around it. -/
def IsSingleText (text : String) : Prop :=
  ∃ parts : Parts, parts.IsSingle ∧ trim text.toList = parts.write

/-- A text is read exactly when it has readable parts, which say what it is read as. -/
theorem readChars_eq_some_iff {text : List Char} {entry : AnnotationEntry} :
    readChars text = some entry ↔
      ∃ parts : Parts, parts.IsReadable ∧ trim text = parts.write ∧ parts.entry = entry := by
  constructor
  · intro found
    obtain ⟨parts, readable, trimmed⟩ := exists_parts_of_readChars found
    rw [Parts.readChars_of_write readable trimmed] at found
    exact ⟨parts, readable, trimmed, Option.some.inj found⟩
  · rintro ⟨parts, readable, trimmed, rfl⟩
    exact Parts.readChars_of_write readable trimmed

/-- A text is read exactly when it has readable parts. With readable parts it is one annotation
exactly when the parts are those of one. When it is one, it is read with another annotation after it
and a gap between them exactly when both have argument lists, or when it has neither list nor use
site and the other has a use site. -/
theorem read_eq_some_iff_and_pair_isSome_iff (text : String) :
    (∀ entry : AnnotationEntry, read text = some entry ↔
      ∃ parts : Parts, parts.IsReadable ∧ trim text.toList = parts.write ∧ parts.entry = entry) ∧
      (∀ parts : Parts, parts.IsReadable → trim text.toList = parts.write →
        (IsSingleText text ↔ parts.IsSingle)) ∧
      ∀ (second gap : String) (parts other : Parts), parts.IsSingle → other.IsSingle →
        trim text.toList = parts.write → trim second.toList = other.write → IsGap gap.toList →
        ((read (text ++ gap ++ second)).isSome = true ↔
          (parts.list.isSome = true ∧ other.list.isSome = true) ∨
            parts.list = none ∧ parts.useSite = none ∧ other.useSite.isSome = true) := by
  refine ⟨fun _ => readChars_eq_some_iff, ?_, ?_⟩
  · intro parts readable trimmed
    constructor
    · rintro ⟨own, single, ownTrimmed⟩
      have same := Parts.write_injective single.isReadable readable (ownTrimmed.symm.trans trimmed)
      rwa [same] at single
    · intro single
      exact ⟨parts, single, trimmed⟩
  · intro second gap parts other single otherSingle trimmed otherTrimmed isGap
    have filled : trim text.toList ≠ [] := trimmed ▸ List.cons_ne_nil _ _
    have otherFilled : trim second.toList ≠ [] := otherTrimmed ▸ List.cons_ne_nil _ _
    obtain ⟨between, betweenGap, whole⟩ := exists_trim_append isGap filled otherFilled
    rw [← Parts.pair_iff single.isReadable otherSingle.isReadable betweenGap,
      Option.isSome_iff_exists, read, String.toList_append, String.toList_append]
    simp only [readChars_eq_some_iff, whole, trimmed, otherTrimmed]
    constructor
    · rintro ⟨_, pair, readable, same, _⟩
      exact ⟨pair, readable, same⟩
    · rintro ⟨pair, readable, same⟩
      exact ⟨_, pair, readable, same, rfl⟩

/-- The parts of an annotation with an argument list. -/
def kindParts : Parts := ⟨none, "SerialName".toList, some "\"kind\"".toList⟩

/-- These are parts of one annotation. -/
theorem kindParts_isSingle : kindParts.IsSingle where
  useSite := nofun
  chars := List.all_eq_true.mp rfl
  solid := by decide
  list := by
    rintro inner ⟨⟩
    decide

/-- The parts of an annotation with a use site. -/
def fieldParts : Parts := ⟨some "field".toList, "Required".toList, none⟩

/-- These are parts of one annotation. -/
theorem fieldParts_isSingle : fieldParts.IsSingle where
  useSite := by
    rintro site ⟨⟩
    exact ⟨by decide, List.all_eq_true.mp rfl⟩
  chars := List.all_eq_true.mp rfl
  solid := by decide
  list := nofun

/-- A use site after an argument list is not read. -/
theorem kind_field_not_read : kindParts.IsSingle ∧ fieldParts.IsSingle ∧
    trim "@SerialName(\"kind\")".toList = kindParts.write ∧
    trim "@field:Required".toList = fieldParts.write ∧ IsGap " ".toList ∧
    (read ("@SerialName(\"kind\")" ++ " " ++ "@field:Required")).isSome = false := by
  have trimmed : trim "@SerialName(\"kind\")".toList = kindParts.write := by decide
  have otherTrimmed : trim "@field:Required".toList = fieldParts.write := by decide
  have isGap : IsGap " ".toList := by decide
  refine ⟨kindParts_isSingle, fieldParts_isSingle, trimmed, otherTrimmed, isGap, ?_⟩
  have pair := (read_eq_some_iff_and_pair_isSome_iff "@SerialName(\"kind\")").2.2 _ " " _ _
    kindParts_isSingle fieldParts_isSingle trimmed otherTrimmed isGap
  rw [← Bool.not_eq_true, pair]
  decide

/-- The parts of two annotations with argument lists when they are read as one. -/
def joinedParts : Parts := ⟨none, "SerialName".toList, some "\"kind\") @EncodeDefault(".toList⟩

/-- Two annotations with argument lists are read as one, whose list reaches from the first
parenthesis to the last. -/
theorem two_lists_read_as_one : IsSingleText "@SerialName(\"kind\")" ∧
    IsSingleText "@EncodeDefault()" ∧
    read "@SerialName(\"kind\") @EncodeDefault()" =
      some ⟨none, "SerialName", [⟨none, .expression "\"kind\")@EncodeDefault("⟩]⟩ ∧
    ¬ IsSingleText "@SerialName(\"kind\") @EncodeDefault()" := by
  refine ⟨⟨kindParts, kindParts_isSingle, by decide⟩,
    ⟨⟨none, "EncodeDefault".toList, some []⟩, ⟨nofun, List.all_eq_true.mp rfl, by decide, ?_⟩,
      by decide⟩, by decide, ?_⟩
  · rintro inner ⟨⟩
    decide
  · rintro ⟨parts, single, trimmed⟩
    have readable : joinedParts.IsReadable :=
      ⟨nofun, kindParts_isSingle.isReadable.chars, by decide⟩
    have own : trim "@SerialName(\"kind\") @EncodeDefault()".toList = joinedParts.write := by
      decide
    have same := Parts.write_injective single.isReadable readable (trimmed.symm.trans own)
    have closed := single.list _ (congrArg Parts.list same)
    exact closed.within "\"kind\")".toList (by decide) (by decide)

end AnnotationEntry

end KotlinLint
