import KotlinLint.Proofs.Text.Gap
import KotlinLint.Text.Quoted

/-!
# Written string literals

A plain literal writes any text when a backslash stands before its backslashes, double quotes and
dollar signs (`Quoted.write`), and reading the literal gives the text back (`Quoted.read_write`).
-/

namespace KotlinLint.Text.Quoted

/-- How a plain literal writes a character: a backslash stands before backslashes, double quotes and
dollar signs. -/
def writeChar (c : Char) : List Char := if c = '\\' ∨ c = '"' ∨ c = '$' then ['\\', c] else [c]

/-- The inside of the plain literal that denotes a text. -/
def inside (content : List Char) : List Char := content.flatMap writeChar

/-- The plain literal that denotes a text. -/
def write (content : List Char) : List Char := '"' :: (inside content ++ ['"'])

/-- The inside of a literal begins with characters that are not special. -/
theorem contents_plain_append {text : List Char} (plain : ∀ c ∈ text, c ∉ ['\\', '"', '$'])
    (rest : List Char) : contents (text ++ rest) = (contents rest).map (text ++ ·) := by
  induction text with
  | nil =>
    rw [List.nil_append]
    cases contents rest <;> rfl
  | cons c more ih =>
    obtain ⟨here, later⟩ := List.forall_mem_cons.mp plain
    simp only [List.mem_cons, List.not_mem_nil, or_false, not_or] at here
    obtain ⟨noBackslash, noQuote, noDollar⟩ := here
    rw [List.cons_append, contents, if_neg (by simp [noQuote, noDollar]), ih later, Option.map_map]
    · rfl
    · exact fun same _ => noBackslash same
    · exact fun _ _ same _ => noBackslash same

/-- A backslash and the character after it are read as the character that they write. -/
theorem contents_escape (c : Char) (rest : List Char) :
    contents ('\\' :: c :: rest) = (contents rest).map (escaped c :: ·) := by rw [contents]

/-- A literal denotes what its inside denotes. -/
theorem read_between_quotes {inner content : List Char} (denotes : contents inner = some content) :
    read ('"' :: (inner ++ ['"'])) = some content := by
  rw [read, List.getLast?_concat, if_pos rfl, List.dropLast_concat, denotes]

/-- The inside of a literal denotes the text that it was written for. -/
theorem contents_inside (content : List Char) : contents (inside content) = some content := by
  induction content with
  | nil => rfl
  | cons c rest ih =>
    rw [inside, List.flatMap_cons, ← inside, writeChar]
    split
    case isTrue special =>
      have denotes : escaped c = c := by
        rcases special with rfl | rfl | rfl <;> rfl
      rw [List.cons_append, List.singleton_append, contents_escape, ih, denotes]
      rfl
    case isFalse plain =>
      have notSpecial : c ∉ ['\\', '"', '$'] := by simpa using plain
      rw [contents_plain_append (List.forall_mem_singleton.mpr notSpecial), ih]
      rfl

/-- A literal denotes the text that it was written for. -/
theorem read_write (content : List Char) : read (write content) = some content :=
  read_between_quotes (contents_inside content)

/-- Only a text with double quotes is a literal. -/
theorem read_eq_none {text : List Char} (noQuote : '"' ∉ text) : read text = none := by
  cases text with
  | nil => rfl
  | cons c rest =>
    rw [read]
    intro others whole
    rw [List.cons.injEq] at whole
    rw [whole.1] at noQuote
    exact noQuote (List.mem_cons_self ..)

/-- What stands between double quotes is tight with them. -/
theorem isTight_between_quotes (inner : List Char) : IsTight ('"' :: (inner ++ ['"'])) := by
  have quote : IsTight ['"'] := .of_forall (List.forall_mem_singleton.mpr rfl)
  exact quote.join quote nofun nofun inner

/-- A literal is tight. -/
theorem isTight_write (content : List Char) : IsTight (write content) :=
  isTight_between_quotes (inside content)

/-- The first equals sign of a text that begins with a double quote comes after this. -/
theorem mem_of_cut_quote {rest before after : List Char}
    (divided : cut '=' ('"' :: rest) = some (before, after)) : '"' ∈ before := by
  obtain ⟨whole, _⟩ := cut_eq_some_iff.mp divided
  cases before with
  | nil => cases whole
  | cons c more =>
    rw [List.cons_append, List.cons.injEq] at whole
    rw [whole.1]
    exact List.mem_cons_self ..

/-- The first equals sign of a literal comes after its first double quote. -/
theorem mem_of_cut_write {content before after : List Char}
    (divided : cut '=' (write content) = some (before, after)) : '"' ∈ before :=
  mem_of_cut_quote divided

end KotlinLint.Text.Quoted
