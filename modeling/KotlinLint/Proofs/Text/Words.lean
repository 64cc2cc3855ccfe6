import KotlinLint.Proofs.Text.Division

/-!
# Words of a text

A gap that is not empty divides the words before it from those after it (`words_between`), and gaps
at the ends of a text make no difference (`words_gap_append`, `words_append_gap`). A text without
blanks is one word, and without a gap behind it begins the first word of what follows
(`words_solid_append`). Put together again, the words are the text without its blanks
(`flatten_words`).
-/

namespace KotlinLint.Text

/-- A blank divides the words before it from those after it. -/
theorem words_append_cons {c : Char} (blank : isBlank c = true) (front back : List Char) :
    words (front ++ c :: back) = words front ++ words back := by
  simp only [words, splitWhere_eq]
  rw [List.splitOnP_append_cons front back blank, List.filter_append]

/-- A gap before a text makes no word. -/
theorem words_gap_append {gap : List Char} (isGap : IsGap gap) (text : List Char) :
    words (gap ++ text) = words text := by
  induction gap with
  | nil => rfl
  | cons c rest ih =>
    obtain ⟨blank, later⟩ := List.forall_mem_cons.mp isGap
    have first := words_append_cons blank [] (rest ++ text)
    rw [List.nil_append] at first
    rw [List.cons_append, first, ih later]
    rfl

/-- A gap divides words when it is not empty. -/
theorem words_between {gap : List Char} (isGap : IsGap gap) (solid : gap ≠ [])
    (front back : List Char) : words (front ++ gap ++ back) = words front ++ words back := by
  cases gap with
  | nil => exact absurd rfl solid
  | cons c rest =>
    obtain ⟨blank, later⟩ := List.forall_mem_cons.mp isGap
    rw [List.append_assoc, List.cons_append, words_append_cons blank, words_gap_append later]

/-- A gap after a text makes no word. -/
theorem words_append_gap {gap : List Char} (isGap : IsGap gap) (text : List Char) :
    words (text ++ gap) = words text := by
  by_cases empty : gap = []
  · rw [empty, List.append_nil]
  · have divided := words_between isGap empty text []
    rw [List.append_nil] at divided
    rw [divided]
    simp [words, splitWhere]

/-- A text without blanks is one word. -/
theorem words_solid {text : List Char} (filled : text ≠ [])
    (solid : ∀ c ∈ text, isBlank c = false) : words text = [text] := by
  rw [words, splitWhere_eq, List.splitOnP_eq_singleton solid]
  simp [filled]

/-- A text without blanks before a text is in front of its first part. -/
theorem splitWhere_solid_append {p : Char → Bool} {text : List Char}
    (solid : ∀ c ∈ text, p c = false) (back : List Char) :
    splitWhere p (text ++ back) = (splitWhere p back).modifyHead (text ++ ·) := by
  induction text with
  | nil =>
    rw [List.nil_append]
    exact (congrFun List.modifyHead_id _).symm
  | cons c rest ih =>
    obtain ⟨here, later⟩ := List.forall_mem_cons.mp solid
    rw [List.cons_append, splitWhere, if_neg (by simp [here]), ih later, List.modifyHead_modifyHead]
    rfl

/-- A text without blanks begins the first word of a text that begins with no blank. -/
theorem words_solid_append {text : List Char} (filled : text ≠ [])
    (solid : ∀ c ∈ text, isBlank c = false) {c : Char} (notBlank : isBlank c = false)
    (rest : List Char) :
    words (text ++ c :: rest) = (words (c :: rest)).modifyHead (text ++ ·) := by
  have first : splitWhere isBlank (c :: rest) =
      (splitWhere isBlank rest).modifyHead (c :: ·) := by
    rw [splitWhere, if_neg (by simp [notBlank])]
  cases parts : splitWhere isBlank rest with
  | nil => exact absurd parts (splitWhere_ne_nil isBlank rest)
  | cons part others =>
    rw [words, words, splitWhere_solid_append solid, first, parts]
    simp [filled]

/-- The words of a text put together are the text without its blanks. -/
theorem flatten_words (text : List Char) : (words text).flatten = squeeze text := by
  rw [words, List.flatten_filter_not_isEmpty]
  induction text with
  | nil => rfl
  | cons c rest ih =>
    by_cases blank : isBlank c = true
    · rw [splitWhere, if_pos blank]
      simpa [squeeze, blank] using ih
    · rw [splitWhere, if_neg blank]
      cases parts : splitWhere isBlank rest with
      | nil => exact absurd parts (splitWhere_ne_nil isBlank rest)
      | cons part others =>
        rw [parts] at ih
        simpa [squeeze, blank] using ih

/-- A text that begins with no blank has words. -/
theorem words_ne_nil {c : Char} (notBlank : isBlank c = false) (rest : List Char) :
    words (c :: rest) ≠ [] := by
  intro none
  have joined := flatten_words (c :: rest)
  rw [none] at joined
  simp [squeeze, notBlank] at joined

end KotlinLint.Text
