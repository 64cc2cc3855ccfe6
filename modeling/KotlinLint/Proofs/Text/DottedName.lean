import KotlinLint.Proofs.Text.Words

/-!
# Dotted names

A dotted name is written as words with dots between them, with blanks around the dots and with
backquotes around any of the words (`DottedName.write`). Without the blanks it is the words joined
by dots (`DottedName.squeeze_write`), so splitting that at the dots gives the words back
(`DottedName.splitOn_joined`), and backquotes around any of them make it another text
(`DottedName.joined_eq_bare_iff`). With the blanks, the only words of the text that have no dot are
words of the name (`DottedName.eq_write_of_mem_words`), and what follows a blank follows a dot and a
gap (`DottedName.exists_dot_of_blank`).
-/

namespace KotlinLint.Text

/-- A word of a name as it is written. -/
structure Word where
  name : String
  /-- Whether the word stands in backquotes. -/
  quoted : Bool

namespace Word

/-- How a word is written. -/
def write (word : Word) : List Char :=
  if word.quoted then backquote :: word.name.toList ++ [backquote] else word.name.toList

/-- The word without backquotes around it. -/
def bare (word : Word) : Word := { word with quoted := false }

/-- Whether a word may have a character: blanks, dots, semicolons, asterisks and backquotes stand
between words. -/
def isPlain (c : Char) : Bool :=
  !isBlank c && c != '.' && c != ';' && c != '*' && c != backquote

/-- Whether a word can be told from what stands around it. -/
structure IsWellFormed (word : Word) : Prop where
  solid : word.name.toList ≠ []
  chars : ∀ c ∈ word.name.toList, isPlain c = true

instance (word : Word) : Decidable word.IsWellFormed :=
  decidable_of_iff (word.name.toList ≠ [] ∧ word.name.toList.all isPlain = true)
    ⟨fun ⟨solid, chars⟩ => ⟨solid, List.all_eq_true.mp chars⟩,
      fun ⟨solid, chars⟩ => ⟨solid, List.all_eq_true.mpr chars⟩⟩

/-- Whether what is written for a word can be told from dots and blanks around it. -/
structure IsSolid (word : Word) : Prop where
  filled : word.write ≠ []
  chars : ∀ c ∈ word.write, isBlank c = false ∧ c ≠ '.'

variable {word : Word}

/-- A word without backquotes is written as it is. -/
theorem write_of_unquoted (unquoted : word.quoted = false) : word.write = word.name.toList := by
  simp [write, unquoted]

/-- A word is written with its characters and with backquotes. -/
theorem mem_write {c : Char} (listed : c ∈ word.write) : c ∈ word.name.toList ∨ c = backquote := by
  rw [write] at listed
  split at listed
  · simp only [List.mem_append, List.mem_cons, List.not_mem_nil, or_false] at listed
    rcases listed with (opening | inName) | closing
    · exact .inr opening
    · exact .inl inName
    · exact .inr closing
  · exact .inl listed

/-- A word is written with the characters that words may have and with backquotes. -/
theorem isPlain_of_mem_write (wellFormed : word.IsWellFormed) :
    ∀ c ∈ word.write, isPlain c = true ∨ c = backquote := fun c listed =>
  (mem_write listed).imp_left (wellFormed.chars c)

/-- Semicolons and asterisks are in no word. -/
theorem notMem_write (wellFormed : word.IsWellFormed) {mark : Char}
    (notPlain : isPlain mark = false) (noQuote : mark ≠ backquote) : mark ∉ word.write := by
  intro listed
  rcases isPlain_of_mem_write wellFormed mark listed with plain | quote
  · rw [notPlain] at plain
    cases plain
  · exact noQuote quote

/-- A well-formed word can be told from dots and blanks. -/
theorem IsWellFormed.isSolid (wellFormed : word.IsWellFormed) : word.IsSolid where
  filled := by
    rw [write]
    split
    · exact nofun
    · exact wellFormed.solid
  chars c listed := by
    rcases isPlain_of_mem_write wellFormed c listed with plain | rfl
    · simp only [isPlain, Bool.and_eq_true, Bool.not_eq_true', bne_iff_ne] at plain
      exact ⟨plain.1.1.1.1, plain.1.1.1.2⟩
    · decide

/-- What is written for a solid word has no blanks. -/
theorem IsSolid.noBlanks (solid : word.IsSolid) : ∀ c ∈ word.write, isBlank c = false :=
  fun c listed => (solid.chars c listed).1

/-- A solid word is the only word of its text. -/
theorem IsSolid.words_write (solid : word.IsSolid) : words word.write = [word.write] :=
  words_solid solid.filled solid.noBlanks

/-- A word is what is written without backquotes. -/
theorem unquote_write (wellFormed : word.IsWellFormed) :
    unquote word.write = word.name.toList := by
  have absent : backquote ∉ word.name.toList := notMem_of_forall wellFormed.chars rfl
  exact unquote_of_notMem absent word.quoted

/-- Without its backquotes the text of a word is the word without backquotes. -/
theorem filter_write (wellFormed : word.IsWellFormed) :
    word.write.filter (· != backquote) = word.bare.write := by
  have kept : word.name.toList.filter (· != backquote) = word.name.toList := by
    apply List.filter_eq_self.mpr
    intro c listed
    rw [bne_iff_ne]
    rintro rfl
    cases wellFormed.chars _ listed
  rw [write]
  split
  · simp [kept, write, bare]
  · simp [kept, write, bare]

/-- A word without backquotes around it is well-formed as the word is. -/
theorem IsWellFormed.bare (wellFormed : word.IsWellFormed) : word.bare.IsWellFormed :=
  ⟨wellFormed.solid, wellFormed.chars⟩

/-- Backquotes around a word make its text another one. -/
theorem write_eq_bare_iff : word.write = word.bare.write ↔ word.quoted = false := by
  constructor
  · intro same
    rw [← Bool.not_eq_true]
    intro quoted
    have longer := congrArg List.length same
    simp only [write, Word.bare, quoted, ↓reduceIte, Bool.false_eq_true, List.cons_append,
      List.length_cons, List.length_append, List.length_nil] at longer
    omega
  · intro unquoted
    rw [write_of_unquoted unquoted, write_of_unquoted rfl, Word.bare]

end Word

/-- A word after a dot. -/
structure Link where
  /-- The blanks before the dot. -/
  before : List Char
  /-- The blanks after the dot. -/
  after : List Char
  word : Word

/-- How a dot and the word after it are written. -/
def Link.write (link : Link) : List Char := link.before ++ '.' :: (link.after ++ link.word.write)

/-- A name of words with dots between them, as it is written. -/
structure DottedName where
  first : Word
  rest : List Link

namespace DottedName

/-- The words of a name, of which there is at least one. -/
def words (name : DottedName) : List Word := name.first :: name.rest.map Link.word

/-- What the words of a name stand for. -/
def names (name : DottedName) : List String := name.words.map Word.name

/-- How a name is written. -/
def write (name : DottedName) : List Char := name.first.write ++ name.rest.flatMap Link.write

/-- The name without backquotes around its words. -/
def bare (name : DottedName) : DottedName :=
  ⟨name.first.bare, name.rest.map fun link => { link with word := link.word.bare }⟩

/-- Whether no word of a name stands in backquotes. -/
def IsUnquoted (name : DottedName) : Prop := ∀ word ∈ name.words, word.quoted = false

/-- A name as it is written, without the blanks around its dots. -/
def joined (name : DottedName) : List Char := ['.'].intercalate (name.words.map Word.write)

/-- The name with one more word. -/
def concat (name : DottedName) (link : Link) : DottedName :=
  { name with rest := name.rest ++ [link] }

/-- Whether the words of a name satisfy a condition, and blanks stand around its dots. -/
structure HasWords (name : DottedName) (Holds : Word → Prop) : Prop where
  words : ∀ word ∈ name.words, Holds word
  gaps : ∀ link ∈ name.rest, IsGap link.before ∧ IsGap link.after

instance (name : DottedName) (Holds : Word → Prop) [DecidablePred Holds] :
    Decidable (name.HasWords Holds) :=
  decidable_of_iff ((∀ word ∈ name.words, Holds word) ∧
      ∀ link ∈ name.rest, IsGap link.before ∧ IsGap link.after)
    ⟨fun ⟨words, gaps⟩ => ⟨words, gaps⟩, fun ⟨words, gaps⟩ => ⟨words, gaps⟩⟩

/-- Whether a name has words, and blanks around its dots. -/
abbrev IsWellFormed (name : DottedName) : Prop := name.HasWords Word.IsWellFormed

/-- Whether the words of a name can be told from the dots and the blanks. -/
abbrev IsDivided (name : DottedName) : Prop := name.HasWords Word.IsSolid

variable {name : DottedName} {first : Word} {link : Link} {rest : List Link}

/-- The words of a name after the first one are those of a name. -/
theorem HasWords.tail {Holds : Word → Prop} (has : HasWords ⟨first, link :: rest⟩ Holds) :
    HasWords ⟨link.word, rest⟩ Holds :=
  ⟨fun word listed => has.words word (List.mem_cons_of_mem _ listed),
    fun other listed => has.gaps other (List.mem_cons_of_mem _ listed)⟩

/-- The words of a name satisfy what follows from a condition that they satisfy. -/
theorem HasWords.imp {Holds Follows : Word → Prop} (has : name.HasWords Holds)
    (follows : ∀ word, Holds word → Follows word) : name.HasWords Follows :=
  ⟨fun word listed => follows word (has.words word listed), has.gaps⟩

/-- The words of a well-formed name can be told from the dots and the blanks. -/
theorem IsWellFormed.isDivided (wellFormed : name.IsWellFormed) : name.IsDivided :=
  wellFormed.imp fun _ => Word.IsWellFormed.isSolid

/-- A solid word more leaves the words of a name apart. -/
theorem IsDivided.concat (divided : name.IsDivided) (solid : link.word.IsSolid)
    (before : IsGap link.before) (after : IsGap link.after) : (name.concat link).IsDivided where
  words word listed := by
    have grown : (name.concat link).words = name.words ++ [link.word] := by
      simp [DottedName.words, DottedName.concat]
    rw [grown] at listed
    rcases List.mem_append.mp listed with own | new
    · exact divided.words word own
    · rw [List.mem_singleton.mp new]
      exact solid
  gaps other listed := by
    rcases List.mem_append.mp listed with own | new
    · exact divided.gaps other own
    · rw [List.mem_singleton.mp new]
      exact ⟨before, after⟩

/-- A name of one word is written as the word. -/
theorem write_single (first : Word) : write ⟨first, []⟩ = first.write := List.append_nil _

/-- A name is written from its first word on. -/
theorem write_cons (first : Word) (link : Link) (rest : List Link) :
    write ⟨first, link :: rest⟩ =
      first.write ++ link.before ++ '.' :: (link.after ++ write ⟨link.word, rest⟩) := by
  simp [write, Link.write]

/-- A name is joined from its first word on. -/
theorem joined_cons (first : Word) (link : Link) (rest : List Link) :
    joined ⟨first, link :: rest⟩ = first.write ++ '.' :: joined ⟨link.word, rest⟩ := by
  simp [joined, words]

/-- A name with one more word is joined with a dot before the word. -/
theorem joined_concat (name : DottedName) (link : Link) :
    (name.concat link).joined = name.joined ++ '.' :: link.word.write := by
  obtain ⟨first, rest⟩ := name
  induction rest generalizing first with
  | nil => simp [joined, words, concat]
  | cons other rest ih =>
    have later := ih other.word
    rw [concat] at later ⊢
    rw [List.cons_append, joined_cons, later, joined_cons]
    simp

/-- A name without its blanks is its words joined by dots. -/
theorem squeeze_write (divided : name.IsDivided) : squeeze name.write = name.joined := by
  obtain ⟨first, rest⟩ := name
  induction rest generalizing first with
  | nil =>
    have solid := divided.words first List.mem_cons_self
    simpa [write, joined, words] using squeeze_of_forall solid.noBlanks
  | cons link rest ih =>
    have solid := divided.words first List.mem_cons_self
    obtain ⟨before, after⟩ := divided.gaps link List.mem_cons_self
    have dot : ∀ text, squeeze ('.' :: text) = '.' :: squeeze text := fun _ => rfl
    rw [write_cons, squeeze_append, squeeze_append, dot, squeeze_append,
      squeeze_of_forall solid.noBlanks, before.squeeze, after.squeeze,
      ih link.word divided.tail, joined_cons, List.append_nil, List.nil_append]

/-- The joined words of a name are the parts between the dots. -/
theorem splitOn_joined (divided : name.IsDivided) :
    splitOn '.' name.joined = name.words.map Word.write := by
  have noDot : ∀ part ∈ name.words.map Word.write, '.' ∉ part := by
    intro part listed dot
    obtain ⟨word, isWord, rfl⟩ := List.mem_map.mp listed
    exact ((divided.words word isWord).chars _ dot).2 rfl
  rw [splitOn, splitWhere_eq]
  exact List.splitOn_intercalate '.' noDot nofun

/-- The words of a name without backquotes are those of the name without theirs. -/
theorem words_bare (name : DottedName) : name.bare.words = name.words.map Word.bare := by
  simp [words, bare, Function.comp_def]

/-- A word of a name without backquotes is one of the name without its backquotes. -/
theorem exists_of_mem_words_bare {word : Word} (listed : word ∈ name.bare.words) :
    ∃ own ∈ name.words, own.bare = word := by
  rw [words_bare] at listed
  exact List.mem_map.mp listed

/-- A name without backquotes stands for the same. -/
theorem names_bare (name : DottedName) : name.bare.names = name.names := by
  rw [names, words_bare, List.map_map]
  rfl

/-- The words of a name without backquotes satisfy what the words of the name do when backquotes
make no difference to it. -/
theorem HasWords.bare {Holds : Word → Prop} (has : name.HasWords Holds)
    (unquoted : ∀ word, Holds word → Holds word.bare) : name.bare.HasWords Holds where
  words word listed := by
    obtain ⟨own, isWord, rfl⟩ := exists_of_mem_words_bare listed
    exact unquoted own (has.words own isWord)
  gaps link listed := by
    obtain ⟨own, isLink, rfl⟩ := List.mem_map.mp listed
    exact has.gaps own isLink

/-- A name without backquotes around its words is well-formed as the name is. -/
theorem IsWellFormed.bare (wellFormed : name.IsWellFormed) : name.bare.IsWellFormed :=
  HasWords.bare wellFormed fun _ => Word.IsWellFormed.bare

/-- Without its backquotes the text of a name is the name without backquotes. -/
theorem filter_write (wellFormed : name.IsWellFormed) :
    name.write.filter (· != backquote) = name.bare.write := by
  have first := Word.filter_write (wellFormed.words name.first List.mem_cons_self)
  have dot : ∀ text : List Char, ('.' :: text).filter (· != backquote) =
      '.' :: text.filter (· != backquote) := fun _ => rfl
  rw [write, write, List.filter_append, List.filter_flatMap, first, bare, List.flatMap_map,
    List.flatMap_def, List.flatMap_def]
  congr 2
  apply List.map_congr_left
  intro link listed
  obtain ⟨before, after⟩ := wellFormed.gaps link listed
  have own : link.word ∈ name.words :=
    List.mem_cons_of_mem _ (List.mem_map.mpr ⟨link, listed, rfl⟩)
  rw [Link.write, Link.write, List.filter_append, dot, List.filter_append, before.filter_quotes,
    after.filter_quotes, Word.filter_write (wellFormed.words link.word own)]

/-- Backquotes around any of its words make the joined name another one. -/
theorem joined_eq_bare_iff (wellFormed : name.IsWellFormed) :
    name.joined = name.bare.joined ↔ name.IsUnquoted := by
  have sameWords : name.joined = name.bare.joined ↔
      name.words.map Word.write = name.bare.words.map Word.write := by
    constructor
    · intro same
      rw [← splitOn_joined wellFormed.isDivided, same, splitOn_joined wellFormed.bare.isDivided]
    · intro same
      rw [joined, same, joined]
  rw [sameWords, words_bare, List.map_map, List.map_inj_left]
  exact forall₂_congr fun word _ => Word.write_eq_bare_iff

/-- A written name begins with its first word. -/
theorem exists_write_eq (divided : name.IsDivided) :
    ∃ c more, isBlank c = false ∧ name.write = c :: more := by
  obtain ⟨filled, solid⟩ := divided.words name.first List.mem_cons_self
  obtain ⟨c, more, whole⟩ := List.exists_cons_of_ne_nil filled
  refine ⟨c, more ++ name.rest.flatMap Link.write, ?_, ?_⟩
  · exact (solid c (by simp [whole])).1
  · rw [write, whole, List.cons_append]

/-- The joined words of a name are not empty. -/
theorem joined_ne_nil (divided : name.IsDivided) : name.joined ≠ [] := by
  obtain ⟨c, more, solid, whole⟩ := exists_write_eq divided
  rw [← squeeze_write divided, whole, squeeze, List.filter_cons_of_pos (by simp [solid])]
  exact List.cons_ne_nil _ _

/-- A word before a name is a word of the text, or it begins one that goes on with the dot. -/
theorem words_cons (divided : IsDivided ⟨first, link :: rest⟩) :
    ∃ begin others, others ⊆ Text.words (write ⟨link.word, rest⟩) ∧
      (Text.words (write ⟨first, link :: rest⟩) = (first.write ++ '.' :: begin) :: others ∨
        Text.words (write ⟨first, link :: rest⟩) = first.write :: ('.' :: begin) :: others) := by
  have solid := divided.words first List.mem_cons_self
  obtain ⟨before, after⟩ := divided.gaps link List.mem_cons_self
  have dot : ∀ c ∈ ['.'], isBlank c = false := List.forall_mem_singleton.mpr rfl
  have dotFilled : ['.'] ≠ [] := List.cons_ne_nil _ _
  have dotSolid : isBlank '.' = false := rfl
  obtain ⟨c, more, blank, whole⟩ := exists_write_eq divided.tail
  -- The dot begins the first word of the name after it, or is a word of its own.
  obtain ⟨begin, others, later, onward⟩ : ∃ begin others,
      others ⊆ Text.words (write ⟨link.word, rest⟩) ∧
        Text.words ('.' :: (link.after ++ write ⟨link.word, rest⟩)) =
          ('.' :: begin) :: others := by
    by_cases empty : link.after = []
    · have joins := words_solid_append dotFilled dot blank more
      rw [← whole] at joins
      rw [empty, List.nil_append, ← List.singleton_append, joins]
      cases parts : Text.words (write ⟨link.word, rest⟩) with
      | nil =>
        rw [whole] at parts
        exact absurd parts (words_ne_nil blank more)
      | cons part others => exact ⟨part, others, List.subset_cons_self part others, rfl⟩
    · have divides := words_between after empty ['.'] (write ⟨link.word, rest⟩)
      rw [words_solid dotFilled dot, List.append_assoc] at divides
      exact ⟨[], _, List.Subset.refl _, divides⟩
  refine ⟨begin, others, later, ?_⟩
  rw [write_cons]
  by_cases empty : link.before = []
  · left
    have joins := words_solid_append solid.filled solid.noBlanks dotSolid
      (link.after ++ write ⟨link.word, rest⟩)
    rw [empty, List.append_nil, joins, onward, List.modifyHead_cons]
  · right
    have divides := words_between before empty first.write
      ('.' :: (link.after ++ write ⟨link.word, rest⟩))
    rw [divides, solid.words_write, onward, List.singleton_append]

/-- A word of a written name that has no dot is a word of the name. -/
theorem eq_write_of_mem_words (divided : name.IsDivided) {part : List Char}
    (listed : part ∈ Text.words name.write) (noDot : '.' ∉ part) :
    ∃ word ∈ name.words, part = word.write := by
  obtain ⟨first, rest⟩ := name
  induction rest generalizing first with
  | nil =>
    rw [write_single, (divided.words first List.mem_cons_self).words_write] at listed
    exact ⟨first, List.mem_cons_self, List.mem_singleton.mp listed⟩
  | cons link rest ih =>
    obtain ⟨begin, others, later, joins | divides⟩ := words_cons divided
    · rw [joins] at listed
      rcases List.mem_cons.mp listed with rfl | further
      · simp at noDot
      · obtain ⟨word, isWord, same⟩ := ih link.word divided.tail (later further)
        exact ⟨word, List.mem_cons_of_mem _ isWord, same⟩
    · rw [divides] at listed
      simp only [List.mem_cons] at listed
      rcases listed with own | rfl | further
      · exact ⟨first, List.mem_cons_self, own⟩
      · simp at noDot
      · obtain ⟨word, isWord, same⟩ := ih link.word divided.tail (later further)
        exact ⟨word, List.mem_cons_of_mem _ isWord, same⟩

/-- What stands between two blanks in a written name or the gap after it is a word of the name when
it has neither blanks nor dots. -/
theorem exists_word_between (divided : name.IsDivided) {gap part front back : List Char}
    {c d : Char} (isGap : IsGap gap) (opens : isBlank c = true) (closes : isBlank d = true)
    (filled : part ≠ []) (solid : ∀ e ∈ part, isBlank e = false) (noDot : '.' ∉ part)
    (whole : name.write ++ gap = front ++ c :: (part ++ d :: back)) :
    ∃ word ∈ name.words, part = word.write := by
  have listed : part ∈ Text.words name.write := by
    rw [← words_append_gap isGap, whole, words_append_cons opens, words_append_cons closes,
      words_solid filled solid]
    simp
  exact eq_write_of_mem_words divided listed noDot

/-- In a written name with a gap after it, what begins after a blank is after a dot and a gap. -/
theorem exists_dot_of_blank (divided : name.IsDivided) {gap front back : List Char} {c d : Char}
    (isGap : IsGap gap) (blank : isBlank c = true) (solid : isBlank d = false) (noDot : d ≠ '.')
    (whole : name.write ++ gap = front ++ c :: d :: back) :
    ∃ lead other, front = lead ++ '.' :: other ∧ IsGap other := by
  obtain ⟨first, rest⟩ := name
  induction rest generalizing first front with
  | nil =>
    have word := divided.words first List.mem_cons_self
    rw [write_single] at whole
    exact absurd whole (ne_blank_solid word.noBlanks isGap blank solid)
  | cons link rest ih =>
    have word := divided.words first List.mem_cons_self
    obtain ⟨before, after⟩ := divided.gaps link List.mem_cons_self
    have regroup : write ⟨first, link :: rest⟩ ++ gap = (first.write ++ link.before) ++
        '.' :: (link.after ++ (write ⟨link.word, rest⟩ ++ gap)) := by
      rw [write_cons]
      simp
    have notDot : c ≠ '.' := by
      rintro rfl
      cases blank
    rw [regroup] at whole
    rcases List.append_eq_append_iff.mp whole with ⟨more, split, later⟩ | ⟨more, split, later⟩
    · -- The blank is after the dot: in the gap there, or further on.
      cases more with
      | nil => exact absurd (List.cons.inj later).1.symm notDot
      | cons e more =>
        obtain ⟨rfl, further⟩ := List.cons.inj later
        rcases List.append_eq_append_iff.mp further with ⟨others, rfl, tail⟩ | ⟨others, inGap, _⟩
        · obtain ⟨lead, other, same, otherGap⟩ := ih link.word divided.tail tail
          exact ⟨first.write ++ link.before ++ '.' :: (link.after ++ lead), other,
            by simp [split, same], otherGap⟩
        · refine ⟨first.write ++ link.before, more, split, ?_⟩
          intro e listed
          exact after e (by simp [inGap, listed])
    · -- The blank is before the dot, where only blanks follow it.
      cases more with
      | nil => exact absurd (List.cons.inj later).1 notDot
      | cons e others =>
        obtain ⟨rfl, next⟩ := List.cons.inj later
        cases others with
        | nil => exact absurd (List.cons.inj next).1 noDot
        | cons f others =>
          obtain ⟨rfl, _⟩ := List.cons.inj next
          exact absurd split (ne_blank_solid word.noBlanks before blank solid)

/-- The first word of a written name is the first word of the name, or goes on with a dot. -/
theorem exists_words_eq (divided : name.IsDivided) :
    ∃ more others, Text.words name.write = (name.first.write ++ more) :: others ∧
      (more = [] ∨ '.' ∈ more) := by
  obtain ⟨first, rest⟩ := name
  cases rest with
  | nil =>
    rw [write_single, (divided.words first List.mem_cons_self).words_write]
    exact ⟨[], [], by rw [List.append_nil], .inl rfl⟩
  | cons link rest =>
    obtain ⟨begin, others, _, joins | divides⟩ := words_cons divided
    · exact ⟨_, _, joins, .inr List.mem_cons_self⟩
    · refine ⟨[], ('.' :: begin) :: others, ?_, .inl rfl⟩
      rw [List.append_nil]
      exact divides

/-- A name is written with its words, with dots and with blanks. -/
theorem mem_write (gaps : ∀ link ∈ name.rest, IsGap link.before ∧ IsGap link.after) {c : Char}
    (listed : c ∈ name.write) :
    isBlank c = true ∨ c = '.' ∨ ∃ word ∈ name.words, c ∈ word.write := by
  rw [write, List.mem_append, List.mem_flatMap] at listed
  rcases listed with inFirst | ⟨link, isLink, inLink⟩
  · exact .inr (.inr ⟨name.first, List.mem_cons_self, inFirst⟩)
  · obtain ⟨before, after⟩ := gaps link isLink
    have isWord : link.word ∈ name.words :=
      List.mem_cons_of_mem _ (List.mem_map.mpr ⟨link, isLink, rfl⟩)
    simp only [Link.write, List.mem_append, List.mem_cons] at inLink
    rcases inLink with inBefore | dot | inAfter | inWord
    · exact .inl (before c inBefore)
    · exact .inr (.inl dot)
    · exact .inl (after c inAfter)
    · exact .inr (.inr ⟨link.word, isWord, inWord⟩)

/-- Every character at the end of a written name is one of its last word. -/
theorem exists_mem_of_getLast? (divided : name.IsDivided) {c : Char}
    (last : name.write.getLast? = some c) : ∃ word ∈ name.words, c ∈ word.write := by
  obtain ⟨first, rest⟩ := name
  induction rest generalizing first with
  | nil =>
    rw [write_single] at last
    exact ⟨first, List.mem_cons_self, List.mem_of_getLast? last⟩
  | cons link rest ih =>
    obtain ⟨d, more, _, whole⟩ := exists_write_eq divided.tail
    have ends : (write ⟨link.word, rest⟩).getLast? = some c := by
      rw [write_cons, List.getLast?_append] at last
      simpa [whole, List.getLast?_cons] using last
    obtain ⟨word, isWord, inWord⟩ := ih link.word divided.tail ends
    exact ⟨word, List.mem_cons_of_mem _ isWord, inWord⟩

/-- A written name has no blank at either end. -/
theorem isTight_write (divided : name.IsDivided) : IsTight name.write where
  starts c first := by
    obtain ⟨d, more, solid, whole⟩ := exists_write_eq divided
    rw [whole] at first
    cases first
    exact solid
  ends c last := by
    obtain ⟨word, isWord, inWord⟩ := exists_mem_of_getLast? divided last
    exact (divided.words word isWord).noBlanks c inWord

end DottedName

end KotlinLint.Text
