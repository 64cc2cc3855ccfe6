import KotlinLint.File
import KotlinLint.Proofs.Import.Written
import Mathlib.Data.List.Basic

/-!
# Reading written imports

Reading a text that writes an import directive gives the directive (`Import.Spelling.read_write`),
up to backquotes around a new name, which are kept. The words of the text are those of the path,
which are put together again, after the keyword and before the word `as`: a word of the path that
has no dot is one of its segments, and no segment is one of these two. So two texts are read alike
exactly when they write the same path, new name and wildcard
(`Import.read_of_isWritten_and_hasWrittenImport_iff`).
-/

namespace KotlinLint

open Text

/-- An ending is dropped when all of it satisfies the test and what is before it does not end with a
character that does. -/
theorem Text.dropEndWhile_append {p : Char → Bool} {text ending : List Char}
    (goesOn : ∀ c, text.getLast? = some c → p c = false) (dropped : ∀ c ∈ ending, p c = true) :
    dropEndWhile p (text ++ ending) = text := by
  have reversed : ∀ c ∈ ending.reverse, p c = true := fun c listed =>
    dropped c (List.mem_reverse.mp listed)
  rw [dropEndWhile, List.reverse_append, List.dropWhile_append_of_pos reversed]
  cases whole : text.reverse with
  | nil => rw [List.dropWhile_nil, ← whole, List.reverse_reverse]
  | cons c rest =>
    have kept : p c = false := by
      apply goesOn
      rw [← List.head?_reverse, whole]
      rfl
    rw [List.dropWhile_cons_of_neg (by simp [kept]), ← whole, List.reverse_reverse]

namespace Import

/-- Words without `as` belong to the path. -/
theorem splitRename_append {front : List (List Char)} (absent : "as".toList ∉ front)
    (back : List (List Char)) : splitRename (front ++ back) =
      (splitRename back).map fun (path, name) => (front ++ path, name) := by
  induction front with
  | nil =>
    rw [List.nil_append]
    cases splitRename back <;> rfl
  | cons word rest ih =>
    rw [List.mem_cons, not_or] at absent
    obtain ⟨notHere, notLater⟩ := absent
    rw [List.cons_append, splitRename.eq_def]
    simp only [if_neg (Ne.symm notHere), ih notLater, Option.map_map]
    rfl

/-- The words of a path without a wildcard are read as its segments. -/
theorem readSegments_joined {path : DottedName} (wellFormed : path.IsWellFormed) :
    readSegments path.joined = some path.names := by
  have unquoted : (path.words.map Word.write).map unquote =
      path.words.map fun word => word.name.toList := by
    rw [List.map_map]
    exact List.map_congr_left fun word listed => Word.unquote_write (wellFormed.words word listed)
  have filled : (path.words.map fun word => word.name.toList).any List.isEmpty = false := by
    rw [List.any_map, List.any_eq_false]
    intro word listed
    simpa using (wellFormed.words word listed).solid
  have named : (path.words.map fun word => word.name.toList).map String.ofList = path.names := by
    rw [List.map_map]
    exact List.map_congr_left fun word _ => String.ofList_toList
  rw [readSegments, DottedName.splitOn_joined wellFormed.isDivided, unquoted]
  simp only [filled, named, Bool.false_eq_true, ↓reduceIte]

namespace Spelling

variable {spelling : Spelling}

/-- The asterisk of a wildcard is written as it is. -/
theorem write_asterisk (gaps : List Char × List Char) : (asterisk gaps).word.write = ['*'] := by
  have name : "*".toList = ['*'] := by decide
  rw [Word.write_of_unquoted rfl, asterisk, name]

/-- The asterisk of a wildcard can be told from dots and blanks. -/
theorem isSolid_asterisk (gaps : List Char × List Char) : (asterisk gaps).word.IsSolid where
  filled := by
    rw [write_asterisk]
    exact List.cons_ne_nil _ _
  chars := by
    rw [write_asterisk]
    exact List.forall_mem_singleton.mpr (by decide)

/-- The words of the path and the asterisk can be told from dots and blanks. -/
theorem isDivided_target (wellFormed : spelling.IsWellFormed) : spelling.target.IsDivided := by
  rw [target]
  cases marked : spelling.wildcard with
  | none => exact wellFormed.path.isDivided
  | some gaps =>
    obtain ⟨before, after⟩ := wellFormed.wildcard gaps marked
    exact wellFormed.path.isDivided.concat (isSolid_asterisk gaps) before after

/-- A word of the path with the asterisk is one of the path or the asterisk. -/
theorem mem_words_target {word : Word} (listed : word ∈ spelling.target.words) :
    word ∈ spelling.path.words ∨ word.write = ['*'] := by
  rw [target] at listed
  cases marked : spelling.wildcard with
  | none =>
    rw [marked] at listed
    exact .inl listed
  | some gaps =>
    rw [marked] at listed
    have grown : (spelling.path.concat (asterisk gaps)).words =
        spelling.path.words ++ [(asterisk gaps).word] := by
      simp [DottedName.words, DottedName.concat]
    rw [grown] at listed
    rcases List.mem_append.mp listed with own | isAsterisk
    · exact .inl own
    · rw [List.mem_singleton.mp isAsterisk]
      exact .inr (write_asterisk gaps)

/-- The path with the asterisk begins as the path does. -/
theorem first_target (spelling : Spelling) : spelling.target.first = spelling.path.first := by
  rw [target]
  split <;> rfl

/-- A path has no asterisk. -/
theorem asterisk_notMem_joined {path : DottedName} (wellFormed : path.IsWellFormed) :
    '*' ∉ path.joined := by
  have notPlain : Word.isPlain '*' = false := rfl
  obtain ⟨first, rest⟩ := path
  induction rest generalizing first with
  | nil =>
    have noAsterisk := Word.notMem_write (wellFormed.words first List.mem_cons_self) notPlain
      (by decide)
    simpa [DottedName.joined, DottedName.words] using noAsterisk
  | cons link rest ih =>
    have noAsterisk := Word.notMem_write (wellFormed.words first List.mem_cons_self) notPlain
      (by decide)
    have later := ih link.word
      ⟨fun word listed => wellFormed.words word (List.mem_cons_of_mem _ listed),
        fun other listed => wellFormed.gaps other (List.mem_cons_of_mem _ listed)⟩
    simp [DottedName.joined_cons, noAsterisk, later]

/-- The path is found again before the dot and the asterisk of a wildcard. -/
theorem splitWildcard_target (wellFormed : spelling.IsWellFormed) :
    splitWildcard spelling.target.joined = (spelling.path.joined, spelling.wildcard.isSome) := by
  rw [splitWildcard, target]
  cases marked : spelling.wildcard with
  | none =>
    have noMark : ¬ ['.', '*'].isSuffixOf spelling.path.joined = true := by
      rw [List.isSuffixOf_iff_suffix]
      intro ending
      exact asterisk_notMem_joined wellFormed.path (ending.mem (by decide))
    exact if_neg noMark
  | some gaps =>
    have ends : ['.', '*'].isSuffixOf (spelling.path.joined ++ ['.', '*']) = true :=
      List.isSuffixOf_iff_suffix.mpr (List.suffix_append _ _)
    simp only [DottedName.joined_concat, write_asterisk, ends, ↓reduceIte, Option.isSome_some]
    simp

/-- What is written as the word before a new name is a word of that name. -/
theorem name_of_write {word : Word} {text : String} (noQuote : backquote ∉ text.toList)
    (same : word.write = text.toList) : word.name = text := by
  rw [Word.write] at same
  split at same
  · rw [← same] at noQuote
    simp at noQuote
  · exact String.toList_inj.mp same

/-- No word of the path is `as`. -/
theorem renameKeyword_notMem_words (wellFormed : spelling.IsWellFormed) :
    "as".toList ∉ words spelling.target.write := by
  intro listed
  obtain ⟨word, isWord, same⟩ :=
    DottedName.eq_write_of_mem_words (isDivided_target wellFormed) listed (by decide)
  rcases mem_words_target isWord with own | isAsterisk
  · exact wellFormed.notRename word own (name_of_write (by decide) same.symm)
  · rw [isAsterisk] at same
    cases same

/-- A path without the keyword before it does not begin with the keyword. -/
theorem dropKeyword_target (wellFormed : spelling.IsWellFormed) (bare : spelling.keyword = none)
    (back : List (List Char)) :
    dropKeyword (words spelling.target.write ++ back) = words spelling.target.write ++ back := by
  obtain ⟨more, others, whole, ends | goesOn⟩ :=
    DottedName.exists_words_eq (isDivided_target wellFormed)
  · have differs : spelling.path.first.write ≠ "import".toList := fun same =>
      wellFormed.notKeyword bare (name_of_write (by decide) same)
    rw [first_target, ends, List.append_nil] at whole
    rw [whole, List.cons_append, dropKeyword, if_neg differs]
  · have differs : spelling.target.first.write ++ more ≠ "import".toList := by
      intro same
      have dot : '.' ∈ "import".toList := by
        rw [← same]
        exact List.mem_append_right _ goesOn
      exact absurd dot (by decide)
    rw [whole, List.cons_append, dropKeyword, if_neg differs]

/-- The words of a new name are `as` and the name. -/
def renameWords (spelling : Spelling) : List (List Char) :=
  (spelling.rename.map fun newName => [renameKeyword, newName.word.write]).getD []

/-- The words of a directive after its keyword are those of the path and of the new name. -/
theorem words_target_rename (wellFormed : spelling.IsWellFormed) :
    words (spelling.target.write ++ (spelling.rename.map NewName.write).getD []) =
      words spelling.target.write ++ spelling.renameWords := by
  rw [renameWords]
  cases renames : spelling.rename with
  | none => simp
  | some newName =>
    obtain ⟨⟨before, solidBefore⟩, ⟨after, solidAfter⟩, word⟩ := wellFormed.rename newName renames
    have keyword : words renameKeyword = [renameKeyword] := by decide
    have name := word.isSolid.words_write
    have regroup : spelling.target.write ++ newName.write =
        spelling.target.write ++ newName.before ++
          (renameKeyword ++ newName.after ++ newName.word.write) := by
      simp [NewName.write]
    rw [Option.map_some, Option.map_some, Option.getD_some, Option.getD_some, regroup,
      words_between before solidBefore, words_between after solidAfter, keyword, name]
    rfl

/-- Without its keyword a directive has the words of the path and of the new name. -/
theorem dropKeyword_words_body (wellFormed : spelling.IsWellFormed) :
    dropKeyword (words spelling.body) = words spelling.target.write ++ spelling.renameWords := by
  rw [body, List.append_assoc, writeKeyword]
  cases written : spelling.keyword with
  | none =>
    rw [Option.map_none, Option.getD_none, List.nil_append, words_target_rename wellFormed]
    exact dropKeyword_target wellFormed written _
  | some gap =>
    obtain ⟨isGap, solid⟩ := wellFormed.keyword gap written
    have keyword : words Import.keyword = [Import.keyword] := by decide
    rw [Option.map_some, Option.getD_some, words_between isGap solid, keyword,
      words_target_rename wellFormed, List.singleton_append, dropKeyword]
    exact if_pos rfl

/-- The path and the new name are found again in a directive. -/
theorem splitRename_body (wellFormed : spelling.IsWellFormed) :
    splitRename (dropKeyword (words spelling.body)) =
      some (words spelling.target.write, spelling.rename.map (·.word.write)) := by
  rw [dropKeyword_words_body wellFormed,
    splitRename_append (renameKeyword_notMem_words wellFormed), renameWords]
  cases spelling.rename with
  | none => simp [splitRename]
  | some newName => simp [splitRename, renameKeyword]

/-- A directive begins with a word. -/
theorem exists_body_eq (wellFormed : spelling.IsWellFormed) :
    ∃ c more, isBlank c = false ∧ spelling.body = c :: more := by
  rw [body, writeKeyword]
  cases spelling.keyword with
  | none =>
    obtain ⟨c, more, notBlank, whole⟩ := DottedName.exists_write_eq (isDivided_target wellFormed)
    exact ⟨c, _, notBlank, by simp only [whole]; rfl⟩
  | some gap => exact ⟨'i', _, rfl, rfl⟩

/-- A directive ends with a word, in which there is no semicolon. -/
theorem of_getLast?_body (wellFormed : spelling.IsWellFormed) {c : Char}
    (last : spelling.body.getLast? = some c) : isBlank c = false ∧ c ≠ ';' := by
  have ofWord : ∀ {word : Word}, word.IsWellFormed → c ∈ word.write →
      isBlank c = false ∧ c ≠ ';' := by
    intro word isWord listed
    refine ⟨isWord.isSolid.noBlanks c listed, ?_⟩
    rintro rfl
    exact Word.notMem_write isWord rfl (by decide) listed
  rw [body] at last
  cases renames : spelling.rename with
  | none =>
    obtain ⟨d, more, _, whole⟩ := DottedName.exists_write_eq (isDivided_target wellFormed)
    have ends : spelling.target.write.getLast? = some c := by
      rw [renames, Option.map_none, Option.getD_none, List.append_nil, List.getLast?_append] at last
      simpa [whole, List.getLast?_cons] using last
    obtain ⟨word, isWord, listed⟩ :=
      DottedName.exists_mem_of_getLast? (isDivided_target wellFormed) ends
    rcases mem_words_target isWord with own | isAsterisk
    · exact ofWord (wellFormed.path.words word own) listed
    · rw [isAsterisk] at listed
      rw [List.mem_singleton.mp listed]
      decide
  | some newName =>
    have word := (wellFormed.rename newName renames).2.2
    obtain ⟨d, more, whole⟩ := List.exists_cons_of_ne_nil word.isSolid.filled
    have ends : newName.word.write.getLast? = some c := by
      rw [renames, Option.map_some, Option.getD_some, NewName.write, List.getLast?_append,
        List.getLast?_append] at last
      simpa [whole, List.getLast?_cons] using last
    exact ofWord word (List.mem_of_getLast? ends)

/-- Without the blanks around it and the semicolons at its end a directive has a gap at its end, or
nothing more. -/
theorem exists_dropEndWhile_eq (wellFormed : spelling.IsWellFormed) :
    ∃ gap, IsGap gap ∧ dropEndWhile (· == ';') (trim spelling.write) = spelling.body ++ gap := by
  obtain ⟨before, gap, after⟩ := wellFormed.gaps
  obtain ⟨c, more, notBlank, whole⟩ := exists_body_eq wellFormed
  have starts : ∀ rest d, (spelling.body ++ rest).head? = some d → isBlank d = false := by
    intro rest d first
    rw [whole, List.cons_append, List.head?_cons, Option.some.injEq] at first
    rwa [← first]
  cases count : spelling.semicolons with
  | zero =>
    -- Without semicolons the blanks before them are blanks after the directive.
    have tight : IsTight spelling.body :=
      ⟨fun d first => starts [] d (by rwa [List.append_nil]),
        fun d last => (of_getLast?_body wellFormed last).1⟩
    have behind : IsGap (spelling.gap ++ spelling.after) := by
      intro d listed
      exact (List.mem_append.mp listed).elim (gap d) (after d)
    have regroup : spelling.write =
        spelling.before ++ spelling.body ++ (spelling.gap ++ spelling.after) := by
      simp [write, count]
    refine ⟨[], .empty, ?_⟩
    rw [regroup, tight.trim_between before behind]
    have kept : ∀ d, spelling.body.getLast? = some d → (d == ';') = false := fun d last =>
      beq_eq_false_iff_ne.mpr (of_getLast?_body wellFormed last).2
    have dropped := dropEndWhile_append kept (List.forall_mem_nil _)
    rw [List.append_nil] at dropped
    rw [dropped, List.append_nil]
  | succ count' =>
    have tight : IsTight (spelling.body ++ spelling.gap ++ List.replicate (count' + 1) ';') := by
      constructor
      · intro d first
        rw [List.append_assoc] at first
        exact starts _ d first
      · intro d last
        rw [List.replicate_succ', ← List.append_assoc, List.getLast?_concat, Option.some.injEq]
          at last
        rw [← last]
        rfl
    have kept : ∀ d, (spelling.body ++ spelling.gap).getLast? = some d → (d == ';') = false := by
      intro d last
      rw [List.getLast?_append, Option.or_eq_some_iff] at last
      rw [beq_eq_false_iff_ne]
      rintro rfl
      rcases last with inGap | ⟨_, inBody⟩
      · exact absurd (gap _ (List.mem_of_getLast? inGap)) (by decide)
      · exact (of_getLast?_body wellFormed inBody).2 rfl
    refine ⟨spelling.gap, gap, ?_⟩
    rw [write, count, tight.trim_between before after]
    exact dropEndWhile_append kept fun d listed => by simp [List.eq_of_mem_replicate listed]

/-- A written directive is read as its path, its new name as it is written, and its wildcard. -/
theorem read_write (wellFormed : spelling.IsWellFormed) :
    read (String.ofList spelling.write) = some ⟨spelling.path.names,
      spelling.rename.map fun newName => String.ofList newName.word.write,
      spelling.wildcard.isSome⟩ := by
  obtain ⟨gap, isGap, trimmed⟩ := exists_dropEndWhile_eq wellFormed
  have path : (words spelling.target.write).flatten = spelling.target.joined := by
    rw [flatten_words, DottedName.squeeze_write (isDivided_target wellFormed)]
  rw [read, String.toList_ofList, readChars, trimmed, words_append_gap isGap]
  simp only [splitRename_body wellFormed, path, splitWildcard_target wellFormed,
    readSegments_joined wellFormed.path, Option.map_some, Option.map_map]
  rfl

/-- A written directive without backquotes around its new name is read as the directive. -/
theorem read_write_of_plainlyRenamed (wellFormed : spelling.IsWellFormed)
    (plain : spelling.IsPlainlyRenamed) :
    read (String.ofList spelling.write) = some spelling.directive := by
  have renamed : (spelling.rename.map fun newName => String.ofList newName.word.write) =
      spelling.rename.map (·.word.name) := by
    apply Option.map_congr
    intro newName renames
    rw [Word.write_of_unquoted (plain newName renames), String.ofList_toList]
  rw [read_write wellFormed, renamed, directive]

end Spelling

/-- A text that writes a directive is read as the directive. -/
theorem read_of_isWritten {directive : Import} {text : String}
    (written : directive.IsWritten text) : read text = some directive := by
  obtain ⟨spelling, wellFormed, plain, rfl, rfl⟩ := written
  exact Spelling.read_write_of_plainlyRenamed wellFormed plain

/-- The imports that some texts write are the directives that they were written for. -/
theorem filterMap_read_of_isWritten {written : List (Import × String)}
    (areWritten : ∀ pair ∈ written, pair.1.IsWritten pair.2) :
    written.filterMap (fun pair => read pair.2) = written.map Prod.fst :=
  List.filterMap_eq_map_iff_forall_eq_some.mpr fun pair listed =>
    read_of_isWritten (areWritten pair listed)

/-- Every well-formed directive is written by some text, and each text that writes it is read as it.
Two of these texts are read alike exactly when path, new name and wildcard are the same. In a file
whose imports were read from such texts, the search for a text that writes a plain import finds
exactly the plain imports of its path. -/
theorem read_of_isWritten_and_hasWrittenImport_iff :
    (∀ directive : Import, directive.IsWellFormed → ∃ text, directive.IsWritten text) ∧
      (∀ (directive : Import) (text : String), directive.IsWritten text →
        read text = some directive) ∧
      (∀ (directive other : Import) (text otherText : String), directive.IsWritten text →
        other.IsWritten otherText → (read text = read otherText ↔
          directive.path = other.path ∧ directive.rename = other.rename ∧
            directive.wildcard = other.wildcard)) ∧
      ∀ (file : File) (written : List (Import × String)),
        (∀ pair ∈ written, pair.1.IsWritten pair.2) →
        file.imports.map Placed.value = written.filterMap (fun pair => read pair.2) →
        ∀ (path : List String) (sought : String), (plain path).IsWritten sought →
          (file.hasWrittenImport sought = true ↔ ∃ pair ∈ written,
            pair.1.path = path ∧ pair.1.rename = none ∧ pair.1.wildcard = false) := by
  refine ⟨fun _ => exists_isWritten, fun _ _ => read_of_isWritten, ?_, ?_⟩
  · intro directive other text otherText isWritten otherWritten
    rw [read_of_isWritten isWritten, read_of_isWritten otherWritten, Option.some.injEq]
    cases directive
    cases other
    simp only [mk.injEq]
  · intro file written areWritten imported path sought isSought
    have values : file.imports.map Placed.value = written.map Prod.fst :=
      imported.trans (filterMap_read_of_isWritten areWritten)
    have listed : (∃ directive ∈ file.imports, directive.value = plain path) ↔
        plain path ∈ file.imports.map Placed.value := by
      simp only [List.mem_map]
    rw [File.hasWrittenImport, read_of_isWritten isSought, Option.any_some, File.hasImport,
      List.any_eq_true]
    simp only [decide_eq_true_eq]
    rw [listed, values, List.mem_map]
    constructor
    · rintro ⟨pair, isPair, same⟩
      exact ⟨pair, isPair, by rw [same]; exact ⟨rfl, rfl, rfl⟩⟩
    · rintro ⟨⟨⟨_, _, _⟩, text⟩, isPair, rfl, rfl, rfl⟩
      exact ⟨_, isPair, rfl⟩

/-- A directive whose path begins with the keyword and whose new name is the word before new
names. -/
def oddDirective : Import := ⟨["import", "Tag"], some "as", true⟩

/-- A text that writes it with blanks wherever they may stand. -/
def oddText : String := " import\timport .Tag\n. * as as ;;\n"

/-- The text writes the directive. -/
theorem oddDirective_isWritten : oddDirective.IsWritten oddText := by
  refine ⟨⟨[' '], some ['\t'], ⟨⟨"import", false⟩, [⟨[' '], [], ⟨"Tag", false⟩⟩]⟩,
    some (['\n'], [' ']), some ⟨[' '], [' '], ⟨"as", false⟩⟩, [' '], 2, ['\n']⟩, ?_, ?_, by decide,
    by decide⟩
  · refine ⟨by decide, by decide, ?_, nofun, by decide, ?_, ?_⟩
    · rintro gap ⟨⟩
      decide
    · rintro gaps ⟨⟩
      decide
    · rintro newName ⟨⟩
      exact ⟨by decide, by decide, by decide⟩
  · rintro newName ⟨⟩
    rfl

/-- A text that writes a plain import without the keyword. -/
def tagText : String := "tree. Tag;"

/-- The text writes the plain import. -/
theorem tagText_isWritten : (plain ["tree", "Tag"]).IsWritten tagText := by
  refine ⟨⟨[], none, ⟨⟨"tree", false⟩, [⟨[], [' '], ⟨"Tag", false⟩⟩]⟩, none, none, [], 1, []⟩, ?_,
    nofun, by decide, by decide⟩
  exact ⟨by decide, by decide, nofun, by decide, by decide, nofun, nofun⟩

/-- A file that imports both. -/
def tagFile : File := { imports := [⟨oddDirective, {}⟩, ⟨plain ["tree", "Tag"], {}⟩] }

/-- The odd text is read as its directive, and the plain import is found by the text that writes
it. -/
theorem tagText_found : oddDirective.IsWritten oddText ∧ read oddText = some oddDirective ∧
    read oddText ≠ read tagText ∧ tagFile.hasWrittenImport tagText = true := by
  obtain ⟨_, reads, alike, finds⟩ := read_of_isWritten_and_hasWrittenImport_iff
  refine ⟨oddDirective_isWritten, reads _ _ oddDirective_isWritten, ?_, ?_⟩
  · rw [Ne, alike _ _ _ _ oddDirective_isWritten tagText_isWritten]
    decide
  · have areWritten : ∀ pair ∈ [(oddDirective, oddText), (plain ["tree", "Tag"], tagText)],
        pair.1.IsWritten pair.2 :=
      List.forall_mem_cons.mpr ⟨oddDirective_isWritten,
        List.forall_mem_singleton.mpr tagText_isWritten⟩
    have imported := (filterMap_read_of_isWritten areWritten).symm
    refine (finds tagFile _ areWritten imported _ _ tagText_isWritten).mpr ?_
    exact ⟨_, List.mem_cons_of_mem _ List.mem_cons_self, rfl, rfl, rfl⟩

end Import

end KotlinLint
