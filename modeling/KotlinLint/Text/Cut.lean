import KotlinLint.Text.CharClass

/-!
# Trimming and cutting text

Readers work on text as a list of characters. Trimming removes characters from the ends,
cutting divides a text at a mark, and splitting divides it at every mark. What a cut removes is
exactly one mark, so the parts together with it give the text back (`cut_eq_some_iff`), and
splitting always leaves at least one part. What trimming removes are all characters at the ends
that satisfy the test, and no others (`isStripped_stripWhile`).
-/

namespace KotlinLint.Text

/-- Remove the longest ending whose characters all satisfy the test. -/
def dropEndWhile (p : Char → Bool) (text : List Char) : List Char :=
  (text.reverse.dropWhile p).reverse

/-- Remove the characters that satisfy the test from both ends. -/
def stripWhile (p : Char → Bool) (text : List Char) : List Char :=
  dropEndWhile p (text.dropWhile p)

/-- Remove the blanks at both ends. -/
def trim (text : List Char) : List Char := stripWhile isBlank text

/-- Remove every blank. -/
def squeeze (text : List Char) : List Char := text.filter fun c => !isBlank c

/-- The backquote, which encloses an identifier that would not otherwise be one. -/
def backquote : Char := '\x60'

/-- Remove the backquotes at both ends. -/
def unquote (text : List Char) : List Char := stripWhile (· == backquote) text

/-- The text before the first mark and the text after it. -/
def cut (mark : Char) : List Char → Option (List Char × List Char)
  | [] => none
  | c :: rest =>
    if c = mark then some ([], rest)
    else (cut mark rest).map fun (before, after) => (c :: before, after)

/-- The text before the last mark and the text after it. -/
def cutLast (mark : Char) (text : List Char) : Option (List Char × List Char) :=
  (cut mark text.reverse).map fun (after, before) => (before.reverse, after.reverse)

/-- The parts between the characters that satisfy the test; there is one more part than there
are such characters. -/
def splitWhere (p : Char → Bool) : List Char → List (List Char)
  | [] => [[]]
  | c :: rest => if p c then [] :: splitWhere p rest else (splitWhere p rest).modifyHead (c :: ·)

/-- The parts between the marks. -/
def splitOn (mark : Char) (text : List Char) : List (List Char) := splitWhere (· == mark) text

/-- The longest runs of characters that are not blank, in order. -/
def words (text : List Char) : List (List Char) :=
  (splitWhere isBlank text).filter fun word => !word.isEmpty

/-- The text before the first occurrence of a pattern, or all of it without one. -/
def before (pattern : List Char) : List Char → List Char
  | [] => []
  | c :: rest => if pattern.isPrefixOf (c :: rest) then [] else c :: before pattern rest

/-- Whether one string ends with another. -/
def endsWith (text ending : String) : Bool := ending.toList.isSuffixOf text.toList

/-- A cut is at the first mark: the text is put together again from its parts, and the first
part holds no mark. -/
theorem cut_eq_some_iff {mark : Char} {text before after : List Char} :
    cut mark text = some (before, after) ↔ text = before ++ mark :: after ∧ mark ∉ before := by
  induction text generalizing before with
  | nil => simp [cut]
  | cons c rest ih =>
    by_cases same : c = mark
    · subst same
      cases before with
      | nil => simp [cut, eq_comm]
      | cons d before =>
        simp only [cut, ↓reduceIte, Option.some.injEq, Prod.mk.injEq, List.nil_eq, reduceCtorEq,
          false_and, List.cons_append, List.cons.injEq, List.mem_cons, not_or, false_iff]
        rintro ⟨⟨rfl, _⟩, other, _⟩
        exact other rfl
    · cases before with
      | nil => simp [cut, same]
      | cons d before =>
        simp only [cut, same, ↓reduceIte, Option.map_eq_some_iff, Prod.exists, Prod.mk.injEq,
          List.cons.injEq, List.cons_append, List.mem_cons, not_or]
        constructor
        · rintro ⟨first, second, found, ⟨rfl, rfl⟩, rfl⟩
          obtain ⟨rfl, absent⟩ := ih.mp found
          exact ⟨⟨rfl, rfl⟩, fun h => same h.symm, absent⟩
        · rintro ⟨⟨rfl, rfl⟩, _, absent⟩
          exact ⟨before, after, ih.mpr ⟨rfl, absent⟩, ⟨rfl, rfl⟩, rfl⟩

/-- There is nothing to cut exactly in a text without the mark. -/
theorem cut_eq_none_iff {mark : Char} {text : List Char} : cut mark text = none ↔ mark ∉ text := by
  induction text with
  | nil => simp [cut]
  | cons c rest ih =>
    by_cases same : c = mark
    · simp [cut, same]
    · simp [cut, same, ih, Ne.symm same]

/-- Splitting leaves at least one part. -/
theorem splitWhere_ne_nil (p : Char → Bool) (text : List Char) : splitWhere p text ≠ [] := by
  induction text with
  | nil => simp [splitWhere]
  | cons c rest ih =>
    by_cases h : p c <;> simp [splitWhere, h, ih]

/-- Whether a text is left of another one when the characters that satisfy the test are removed
from both ends. -/
structure IsStripped (p : Char → Bool) (text stripped : List Char) : Prop where
  /-- Only characters that satisfy the test are removed. -/
  removed : ∃ before after, text = before ++ stripped ++ after ∧
    (∀ c ∈ before, p c = true) ∧ ∀ c ∈ after, p c = true
  /-- The first character that is left does not satisfy the test. -/
  starts : ∀ c, stripped.head? = some c → p c = false
  /-- The last character that is left does not satisfy the test. -/
  ends : ∀ c, stripped.getLast? = some c → p c = false

/-- What is left of a text without its beginning starts with a character that does not satisfy the
test. -/
theorem eq_false_of_head?_dropWhile {p : Char → Bool} {text : List Char} {c : Char}
    (first : (text.dropWhile p).head? = some c) : p c = false := by
  have fails := List.head?_dropWhile_not p text
  rw [first] at fails
  exact fails

/-- What is removed from the end of a text satisfies the test. -/
theorem exists_eq_dropEndWhile_append (p : Char → Bool) (text : List Char) :
    ∃ after, text = dropEndWhile p text ++ after ∧ ∀ c ∈ after, p c = true := by
  refine ⟨(text.reverse.takeWhile p).reverse, ?_, ?_⟩
  · rw [dropEndWhile, ← List.reverse_append, List.takeWhile_append_dropWhile,
      List.reverse_reverse]
  · intro c listed
    exact List.all_eq_true.mp List.all_takeWhile c (List.mem_reverse.mp listed)

/-- Stripping removes all characters at both ends that satisfy the test, and no others. -/
theorem isStripped_stripWhile (p : Char → Bool) (text : List Char) :
    IsStripped p text (stripWhile p text) := by
  obtain ⟨after, whole, removed⟩ := exists_eq_dropEndWhile_append p (text.dropWhile p)
  refine ⟨⟨text.takeWhile p, after, ?_, ?_, removed⟩, ?_, ?_⟩
  · rw [List.append_assoc, stripWhile, ← whole, List.takeWhile_append_dropWhile]
  · exact List.all_eq_true.mp List.all_takeWhile
  · intro c first
    have front : (text.dropWhile p).head? = some c := by
      rw [whole, List.head?_append]
      exact Option.or_eq_some_iff.mpr (.inl first)
    exact eq_false_of_head?_dropWhile front
  · intro c last
    rw [stripWhile, dropEndWhile, List.getLast?_reverse] at last
    exact eq_false_of_head?_dropWhile last

end KotlinLint.Text
