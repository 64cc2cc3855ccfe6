import KotlinLint.Proofs.AnnotationEntry

/-!
# Parts of annotations

A text that is read as an annotation is, without the blanks around it, an at sign, a use site and a
colon or nothing, a name, and an argument list or nothing
(`AnnotationEntry.exists_parts_of_readChars`), and a text of such parts is read as what they say
(`AnnotationEntry.Parts.readChars_of_write`). The parts are the only ones of the text
(`AnnotationEntry.Parts.write_injective`). Those of a single annotation are more than readable:
blanks stand only around the use site and the name, and the parenthesis at the end closes the one
that begins the list (`AnnotationEntry.Parts.IsSingle`).
-/

namespace KotlinLint

open Text

/-- Whether a parenthesis before a text is closed by one after it, and by none within it. Brackets
in string literals do not count. -/
structure Text.IsClosed (inner : List Char) : Prop where
  /-- The parenthesis is open everywhere within the text. -/
  within : ∀ front, front <+: inner → (Scanner.outside 1).scan front ≠ .outside 0
  /-- Only the parenthesis is open after the text. -/
  settled : (Scanner.outside 1).scan inner = .outside 1

/-- Texts before a mark are found again in what they begin. -/
theorem Text.append_inj_of_mark {mark : Char} {front back other otherBack : List Char}
    (absent : mark ∉ front) (otherAbsent : mark ∉ other)
    (begins : ∀ c, back.head? = some c → c = mark)
    (otherBegins : ∀ c, otherBack.head? = some c → c = mark)
    (whole : front ++ back = other ++ otherBack) : front = other ∧ back = otherBack := by
  have cut : ∀ {text ending : List Char}, mark ∉ text → (∀ c, ending.head? = some c → c = mark) →
      (text ++ ending).takeWhile (· != mark) = text := by
    intro text ending noMark starts
    have passes : ∀ c ∈ text, (c != mark) = true := by
      intro c listed
      rw [bne_iff_ne]
      rintro rfl
      exact noMark listed
    rw [List.takeWhile_append_of_pos passes]
    cases ending with
    | nil => simp
    | cons c rest => simp [starts c rfl]
  have same : front = other := by
    rw [← cut absent begins, whole, cut otherAbsent otherBegins]
  exact ⟨same, List.append_cancel_left (same ▸ whole)⟩

/-- A text is put together again from what is before and after its last mark. -/
theorem Text.eq_of_cutLast {mark : Char} {text before after : List Char}
    (divided : cutLast mark text = some (before, after)) : text = before ++ mark :: after := by
  obtain ⟨⟨back, front⟩, reversed, pair⟩ := Option.map_eq_some_iff.mp divided
  obtain ⟨rfl, rfl⟩ := Prod.mk.inj pair
  obtain ⟨whole, _⟩ := cut_eq_some_iff.mp reversed
  rw [← List.reverse_inj, whole]
  simp

namespace AnnotationEntry

/-- A text after its at sign by its parts, which may have blanks around them. -/
structure Parts where
  /-- What stands before the colon, when there is one. -/
  useSite : Option (List Char)
  name : List Char
  /-- What stands between the parentheses of an argument list, when there is one. -/
  list : Option (List Char)

namespace Parts

/-- How a use site and a name are written. -/
def head (parts : Parts) : List Char :=
  match parts.useSite with
  | none => parts.name
  | some site => site ++ ':' :: parts.name

/-- How an argument list is written. -/
def writeList (parts : Parts) : List Char :=
  match parts.list with
  | none => []
  | some inner => '(' :: (inner ++ [')'])

/-- How the parts are written. -/
def write (parts : Parts) : List Char := '@' :: (parts.head ++ parts.writeList)

/-- The annotation that the parts stand for. -/
def entry (parts : Parts) : AnnotationEntry :=
  ⟨parts.useSite.map fun site => String.ofList (squeeze site), String.ofList (squeeze parts.name),
    Argument.readAll (parts.list.getD [])⟩

/-- Whether the parts are read as an annotation. -/
structure IsReadable (parts : Parts) : Prop where
  /-- A use site ends at the first colon and is before the argument list. -/
  useSite : ∀ site, parts.useSite = some site → ':' ∉ site ∧ '(' ∉ site
  /-- A name has blanks and characters of names. -/
  chars : ∀ c ∈ parts.name, isBlank c = true ∨ isNameChar c = true
  solid : squeeze parts.name ≠ []

/-- Whether the parts are those of one annotation. -/
structure IsSingle (parts : Parts) : Prop where
  /-- A use site is an identifier with blanks around it. -/
  useSite : ∀ site, parts.useSite = some site → IsIdentifier (trim site)
  /-- A name has no blanks inside. -/
  chars : ∀ c ∈ trim parts.name, isNameChar c = true
  solid : trim parts.name ≠ []
  /-- The parenthesis after an argument list closes the one before it. -/
  list : ∀ inner, parts.list = some inner → IsClosed inner

variable {parts other : Parts}

/-- Without a use site there is only the name. -/
theorem head_of_none (own : parts.useSite = none) : parts.head = parts.name := by simp [head, own]

/-- A colon stands between a use site and the name. -/
theorem head_of_some {site : List Char} (own : parts.useSite = some site) :
    parts.head = site ++ ':' :: parts.name := by simp [head, own]

/-- What is neither a blank nor a character of names is not in a readable name. -/
theorem IsReadable.notMem_name (readable : parts.IsReadable) {mark : Char}
    (solid : isBlank mark = false) (noNameChar : isNameChar mark = false) :
    mark ∉ parts.name := by
  intro listed
  rcases readable.chars mark listed with blank | nameChar
  · rw [solid] at blank
    cases blank
  · rw [noNameChar] at nameChar
    cases nameChar

/-- No parenthesis opens before the argument list. -/
theorem IsReadable.notMem_head (readable : parts.IsReadable) : '(' ∉ parts.head := by
  have notInName : '(' ∉ parts.name := readable.notMem_name rfl rfl
  cases own : parts.useSite with
  | none =>
    rw [head_of_none own]
    exact notInName
  | some site =>
    rw [head_of_some own]
    simp [(readable.useSite site own).2, notInName]

/-- An argument list begins with its parenthesis. -/
theorem head?_writeList (parts : Parts) : ∀ c, parts.writeList.head? = some c → c = '(' := by
  intro c first
  rw [writeList] at first
  split at first
  · cases first
  · exact (Option.some.inj first).symm

/-- The use site and the name are found again in a head. -/
theorem IsReadable.head_inj (readable : parts.IsReadable) (otherReadable : other.IsReadable)
    (same : parts.head = other.head) :
    parts.useSite = other.useSite ∧ parts.name = other.name := by
  have noColon : ':' ∉ parts.name := readable.notMem_name rfl rfl
  have otherNoColon : ':' ∉ other.name := otherReadable.notMem_name rfl rfl
  have begins : ∀ (text : List Char) (c : Char), (':' :: text).head? = some c → c = ':' :=
    fun _ _ first => (Option.some.inj first).symm
  cases own : parts.useSite with
  | none =>
    rw [head_of_none own] at same
    cases its : other.useSite with
    | none =>
      rw [head_of_none its] at same
      exact ⟨rfl, same⟩
    | some site =>
      rw [head_of_some its] at same
      rw [same] at noColon
      simp at noColon
  | some site =>
    rw [head_of_some own] at same
    cases its : other.useSite with
    | none =>
      rw [head_of_none its] at same
      rw [← same] at otherNoColon
      simp at otherNoColon
    | some otherSite =>
      rw [head_of_some its] at same
      obtain ⟨sameSite, sameName⟩ := append_inj_of_mark (readable.useSite site own).1
        (otherReadable.useSite otherSite its).1 (begins _) (begins _) same
      exact ⟨congrArg some sameSite, (List.cons.inj sameName).2⟩

/-- The parts of a text that is read are its only ones. -/
theorem write_injective (readable : parts.IsReadable) (otherReadable : other.IsReadable)
    (same : parts.write = other.write) : parts = other := by
  obtain ⟨heads, lists⟩ := append_inj_of_mark readable.notMem_head otherReadable.notMem_head
    parts.head?_writeList other.head?_writeList (List.cons.inj same).2
  obtain ⟨sites, names⟩ := readable.head_inj otherReadable heads
  have inner : parts.list = other.list := by
    rw [writeList, writeList] at lists
    cases own : parts.list <;> cases its : other.list <;> simp_all
  obtain ⟨_, _, _⟩ := parts
  obtain ⟨_, _, _⟩ := other
  simp only at sites names inner
  rw [sites, names, inner]

/-- Written parts with an argument list have no blank at either end. -/
theorem isTight_write_of_list {inner : List Char} (own : parts.list = some inner) :
    IsTight parts.write := by
  have sign : IsTight ['@'] := .of_forall (List.forall_mem_singleton.mpr rfl)
  have closing : IsTight [')'] := .of_forall (List.forall_mem_singleton.mpr rfl)
  have written : parts.write = ['@'] ++ (parts.head ++ '(' :: inner) ++ [')'] := by
    simp [write, writeList, own]
  rw [written]
  exact sign.join closing nofun nofun _

/-- The argument list is found after the head. -/
theorem splitArguments_write (readable : parts.IsReadable) :
    splitArguments (parts.head ++ parts.writeList) = some (parts.head, parts.list.getD []) := by
  rw [splitArguments, writeList]
  cases own : parts.list with
  | none => simp [cut_eq_none_iff.mpr readable.notMem_head]
  | some inner =>
    have opens : cut '(' (parts.head ++ '(' :: (inner ++ [')'])) =
        some (parts.head, inner ++ [')']) := cut_eq_some_iff.mpr ⟨rfl, readable.notMem_head⟩
    simp [opens, cutLast_concat]

/-- The use site and the name are found in the head without its blanks. -/
theorem splitUseSite_head (ofSite : ∀ site, parts.useSite = some site → ':' ∉ site)
    (ofName : parts.useSite = none → ':' ∉ parts.name) :
    splitUseSite (squeeze parts.head) = (parts.useSite.map squeeze, squeeze parts.name) := by
  have within : ∀ {text : List Char}, ':' ∉ text → ':' ∉ squeeze text := fun absent listed =>
    absent (List.mem_filter.mp listed).1
  cases own : parts.useSite with
  | none =>
    rw [head_of_none own, splitUseSite, cut_eq_none_iff.mpr (within (ofName own))]
    rfl
  | some site =>
    have colon : squeeze (':' :: parts.name) = ':' :: squeeze parts.name := rfl
    have divided : cut ':' (squeeze site ++ ':' :: squeeze parts.name) =
        some (squeeze site, squeeze parts.name) :=
      cut_eq_some_iff.mpr ⟨rfl, within (ofSite site own)⟩
    rw [head_of_some own, squeeze_append, colon, splitUseSite, divided]
    rfl

/-- Every text is a use site and a name that are divided by its first colon, or only a name. -/
theorem exists_head_eq (text : List Char) (list : Option (List Char)) :
    ∃ parts : Parts, parts.head = text ∧ parts.list = list ∧
      (∀ site, parts.useSite = some site → ':' ∉ site) ∧
      (parts.useSite = none → ':' ∉ parts.name) := by
  cases divided : cut ':' text with
  | none =>
    exact ⟨⟨none, text, list⟩, rfl, rfl, nofun, fun _ => cut_eq_none_iff.mp divided⟩
  | some pair =>
    obtain ⟨whole, absent⟩ := cut_eq_some_iff.mp divided
    refine ⟨⟨some pair.1, pair.2, list⟩, whole.symm, rfl, ?_, nofun⟩
    rintro site ⟨⟩
    exact absent

/-- The parts are read as their annotation. -/
theorem readChars_of_write (readable : parts.IsReadable) {text : List Char}
    (trimmed : trim text = parts.write) : readChars text = some parts.entry := by
  have named : splitUseSite (squeeze parts.head) =
      (parts.useSite.map squeeze, squeeze parts.name) :=
    splitUseSite_head (fun site own => (readable.useSite site own).1)
      fun _ => readable.notMem_name rfl rfl
  have nameChars : (squeeze parts.name).all isNameChar = true := by
    rw [List.all_eq_true]
    intro c listed
    obtain ⟨inName, solid⟩ := List.mem_filter.mp listed
    rcases readable.chars c inName with blank | nameChar
    · rw [blank] at solid
      cases solid
    · exact nameChar
  rw [readChars, trimmed, write]
  simp only [splitArguments_write readable, named, nameChars,
    List.isEmpty_eq_false_iff.mpr readable.solid, Bool.not_true, Bool.or_self, Bool.false_eq_true,
    ↓reduceIte, entry, Option.map_map]
  rfl

/-- A text that is divided is its head and an argument list that ends it, when it does not end with
a blank. -/
theorem exists_list_of_splitArguments {text head inner : List Char}
    (ends : ∀ c, text.getLast? = some c → isBlank c = false)
    (divided : splitArguments text = some (head, inner)) :
    '(' ∉ head ∧ ∃ list : Option (List Char), text = head ++ writeList ⟨none, [], list⟩ := by
  rw [splitArguments] at divided
  split at divided
  case h_1 undivided =>
    obtain ⟨rfl, rfl⟩ := Prod.mk.inj (Option.some.inj divided)
    exact ⟨cut_eq_none_iff.mp undivided, none, (List.append_nil _).symm⟩
  case h_2 before rest opens =>
    obtain ⟨rfl, absent⟩ := cut_eq_some_iff.mp opens
    split at divided
    case h_1 => cases divided
    case h_2 between tail closes =>
      split at divided
      case isFalse => cases divided
      case isTrue gap =>
        obtain ⟨rfl, rfl⟩ := Prod.mk.inj (Option.some.inj divided)
        have rest' := eq_of_cutLast closes
        -- Only blanks could follow the list, and the text does not end with one.
        have nothing : tail = [] := by
          rw [← List.getLast?_eq_none_iff, Option.eq_none_iff_forall_ne_some]
          intro c last
          have blank := List.all_eq_true.mp gap c (List.mem_of_getLast? last)
          have atEnd : (before ++ '(' :: rest).getLast? = some c := by
            simp [rest', List.getLast?_append, List.getLast?_cons, last]
          rw [ends c atEnd] at blank
          cases blank
        exact ⟨absent, some between, by rw [rest', nothing]; rfl⟩

end Parts

/-- A text that is read as an annotation has readable parts. -/
theorem exists_parts_of_readChars {text : List Char} {entry : AnnotationEntry}
    (found : readChars text = some entry) :
    ∃ parts : Parts, parts.IsReadable ∧ trim text = parts.write := by
  rw [readChars] at found
  split at found
  case h_2 => cases found
  case h_1 body trimmed =>
    split at found
    case h_1 => cases found
    case h_2 head inner divided =>
      have ends : ∀ c, body.getLast? = some c → isBlank c = false := by
        intro c last
        apply (isStripped_stripWhile isBlank text).ends
        rw [← trim, trimmed, List.getLast?_cons, last]
        rfl
      obtain ⟨absent, list, whole⟩ := Parts.exists_list_of_splitArguments ends divided
      obtain ⟨parts, rfl, rfl, ofSite, ofName⟩ := Parts.exists_head_eq head list
      simp only [Parts.splitUseSite_head ofSite ofName] at found
      split at found
      case isTrue => cases found
      case isFalse accepted =>
        rw [Bool.or_eq_true, not_or, List.isEmpty_iff, Bool.not_eq_true, Bool.not_eq_false',
          List.all_eq_true] at accepted
        refine ⟨parts, ⟨?_, ?_, accepted.1⟩, by rw [trimmed, whole]; rfl⟩
        · intro site own
          rw [Parts.head_of_some own] at absent
          exact ⟨ofSite site own, fun listed => absent (List.mem_append_left _ listed)⟩
        · intro c listed
          by_cases blank : isBlank c = true
          · exact .inl blank
          · exact .inr (accepted.2 c (List.mem_filter.mpr ⟨listed, by simp [blank]⟩))

end AnnotationEntry

end KotlinLint
