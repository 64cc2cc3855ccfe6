import KotlinLint.Proofs.Text.Gap

/-!
# Divided texts

What stands before the first occurrence of a pattern is the whole text when the pattern is not in
it (`before_of_absent`), and else what the pattern and the rest follow (`before_append_pattern`).
Splitting a text at separators loses no other characters (`flatMap_filter_splitWhere`), and neither
does stripping (`filter_stripWhile`), so the characters of one class can be followed through both.
-/

namespace KotlinLint.Text

section Before

variable {pattern : List Char}

/-- A text without the pattern is before it as a whole. -/
theorem before_of_absent {text : List Char} (absent : ¬ pattern <:+: text) :
    before pattern text = text := by
  induction text with
  | nil => rfl
  | cons c rest ih =>
    have notHere : ¬ pattern.isPrefixOf (c :: rest) = true := by
      rw [List.isPrefixOf_iff_prefix]
      exact fun starts => absent starts.isInfix
    have notLater : ¬ pattern <:+: rest := fun later => absent (List.infix_cons later)
    rw [before, if_neg notHere, ih notLater]

/-- A text with the pattern is what is before it, the pattern and a rest. -/
theorem exists_eq_before_append {text : List Char} (found : pattern <:+: text) :
    ∃ back, text = before pattern text ++ pattern ++ back := by
  induction text with
  | nil => exact ⟨[], by rw [List.infix_nil.mp found]; rfl⟩
  | cons c rest ih =>
    rw [before]
    by_cases here : pattern.isPrefixOf (c :: rest) = true
    · obtain ⟨back, whole⟩ := List.isPrefixOf_iff_prefix.mp here
      rw [if_pos here]
      exact ⟨back, whole.symm⟩
    · have later : pattern <:+: rest := by
        rcases List.infix_cons_iff.mp found with starts | inside
        · exact absurd (List.isPrefixOf_iff_prefix.mpr starts) here
        · exact inside
      obtain ⟨back, whole⟩ := ih later
      rw [if_neg here]
      exact ⟨back, congrArg (c :: ·) whole⟩

/-- What is before a pattern begins the text. -/
theorem before_isPrefix (pattern text : List Char) : before pattern text <+: text := by
  by_cases found : pattern <:+: text
  · obtain ⟨back, whole⟩ := exists_eq_before_append found
    rw [List.append_assoc] at whole
    exact ⟨pattern ++ back, whole.symm⟩
  · have whole := before_of_absent found
    exact ⟨[], by rw [whole, List.append_nil]⟩

/-- A pattern is not in a text by its end when it ends with another character. -/
theorem infix_of_infix_concat {text shortened : List Char} {last c : Char}
    (ends : pattern = shortened ++ [last]) (differs : last ≠ c)
    (found : pattern <:+: text ++ [c]) : pattern <:+: text := by
  rcases List.infix_concat_iff.mp found with ⟨front, whole⟩ | within
  · rw [ends, ← List.append_assoc] at whole
    have same := List.append_inj_right' whole rfl
    exact absurd (List.singleton_inj.mp same) differs
  · exact within

/-- What is before a pattern does not change when more follows a text that has it. -/
theorem before_append_of_found (solid : pattern ≠ []) {text : List Char}
    (found : pattern <:+: text) (more : List Char) :
    before pattern (text ++ more) = before pattern text := by
  induction text with
  | nil => exact absurd (List.infix_nil.mp found) solid
  | cons c rest ih =>
    rw [List.cons_append, before, before]
    by_cases here : pattern <+: c :: rest
    · have further : pattern <+: c :: (rest ++ more) :=
        here.trans (List.prefix_append (c :: rest) more)
      rw [if_pos (List.isPrefixOf_iff_prefix.mpr here),
        if_pos (List.isPrefixOf_iff_prefix.mpr further)]
    · have later : pattern <:+: rest := (List.infix_cons_iff.mp found).resolve_left here
      have notFurther : ¬ pattern <+: c :: (rest ++ more) := by
        intro starts
        apply here
        have fits : pattern.length ≤ (c :: rest).length :=
          Nat.le_trans later.length_le (Nat.le_succ _)
        exact List.prefix_of_prefix_length_le starts (List.prefix_append (c :: rest) more) fits
      rw [if_neg (mt List.isPrefixOf_iff_prefix.mp here),
        if_neg (mt List.isPrefixOf_iff_prefix.mp notFurther), ih later]

/-- A pattern that begins nowhere earlier is found where it stands. -/
theorem before_append_pattern {front shortened : List Char} {last : Char}
    (ends : pattern = shortened ++ [last]) (back : List Char)
    (absent : ¬ pattern <:+: front ++ shortened) :
    before pattern (front ++ pattern ++ back) = front := by
  induction front with
  | nil =>
    have starts : pattern.isPrefixOf ([] ++ pattern ++ back) = true :=
      List.isPrefixOf_iff_prefix.mpr (List.prefix_append pattern back)
    cases whole : [] ++ pattern ++ back with
    | nil => rfl
    | cons c rest =>
      rw [whole] at starts
      rw [before, if_pos starts]
  | cons c front ih =>
    have notHere : ¬ pattern <+: c :: (front ++ pattern ++ back) := by
      intro starts
      have regroup : c :: (front ++ pattern ++ back) =
          (c :: (front ++ shortened)) ++ (last :: back) := by
        rw [ends]
        simp
      have fits : pattern.length ≤ (c :: (front ++ shortened)).length := by
        rw [ends]
        simp
      rw [regroup] at starts
      exact absent (List.prefix_of_prefix_length_le starts (List.prefix_append _ _) fits).isInfix
    have notLater : ¬ pattern <:+: front ++ shortened :=
      fun later => absent (List.infix_cons later)
    rw [List.cons_append, List.cons_append, before,
      if_neg (mt List.isPrefixOf_iff_prefix.mp notHere), ih notLater]

/-- What is before a pattern can be cut at characters that the pattern does not have before or
after the pattern is looked for. -/
theorem takeWhile_before {p : Char → Bool} (solid : ∀ c ∈ pattern, p c = true) (text : List Char) :
    (before pattern text).takeWhile p = before pattern (text.takeWhile p) := by
  induction text with
  | nil => rfl
  | cons c rest ih =>
    rw [before, List.takeWhile_cons]
    by_cases goesOn : p c = true
    · rw [if_pos goesOn, before]
      by_cases here : pattern <+: c :: rest
      · have kept : pattern <+: c :: rest.takeWhile p := by
          obtain ⟨back, whole⟩ := here
          have cut : (pattern ++ back).takeWhile p = pattern ++ back.takeWhile p :=
            List.takeWhile_append_of_pos solid
          rw [whole, List.takeWhile_cons, if_pos goesOn] at cut
          exact ⟨back.takeWhile p, cut.symm⟩
        rw [if_pos (List.isPrefixOf_iff_prefix.mpr here),
          if_pos (List.isPrefixOf_iff_prefix.mpr kept), List.takeWhile_nil]
      · have notKept : ¬ pattern <+: c :: rest.takeWhile p := by
          intro starts
          exact here (starts.trans (List.cons_prefix_cons.mpr ⟨rfl, List.takeWhile_prefix p⟩))
        rw [if_neg (mt List.isPrefixOf_iff_prefix.mp here),
          if_neg (mt List.isPrefixOf_iff_prefix.mp notKept), List.takeWhile_cons, if_pos goesOn, ih]
    · have nothing : before pattern [] = [] := rfl
      rw [if_neg goesOn, nothing]
      by_cases here : pattern.isPrefixOf (c :: rest) = true
      · rw [if_pos here, List.takeWhile_nil]
      · rw [if_neg here, List.takeWhile_cons, if_neg goesOn]

end Before

section Split

variable {p : Char → Bool}

/-- The parts between separators are those that the library finds. -/
theorem splitWhere_eq (p : Char → Bool) (text : List Char) :
    splitWhere p text = text.splitOnP p := by
  induction text with
  | nil => rfl
  | cons c rest ih => rw [splitWhere, List.splitOnP_cons_eq_if_modifyHead, ih]

/-- A class that no separator is in loses no characters when a text is split. -/
theorem flatMap_filter_splitWhere {kept : Char → Bool} (apart : ∀ c, p c = true → kept c = false)
    (text : List Char) : (splitWhere p text).flatMap (List.filter kept) = text.filter kept := by
  induction text with
  | nil => rfl
  | cons c rest ih =>
    rw [splitWhere]
    by_cases separates : p c = true
    · have dropped : ¬ kept c = true := by simp [apart c separates]
      rw [if_pos separates, List.flatMap_cons, List.filter_nil, List.nil_append, ih,
        List.filter_cons_of_neg dropped]
    · rw [if_neg separates]
      cases parts : splitWhere p rest with
      | nil => exact absurd parts (splitWhere_ne_nil p rest)
      | cons first others =>
        rw [parts] at ih
        rw [List.modifyHead_cons, List.flatMap_cons, List.filter_cons, List.filter_cons, ← ih,
          List.flatMap_cons]
        split
        · rfl
        · rfl

/-- A class that nothing stripped is in loses no characters when a text is stripped. -/
theorem filter_stripWhile {kept : Char → Bool} (apart : ∀ c, p c = true → kept c = false)
    (text : List Char) : (stripWhile p text).filter kept = text.filter kept := by
  obtain ⟨front, back, whole, before, after⟩ := (isStripped_stripWhile p text).removed
  have nothing : ∀ part : List Char, (∀ c ∈ part, p c = true) → part.filter kept = [] := by
    intro part stripped
    apply List.filter_eq_nil_iff.mpr
    intro c listed
    simp [apart c (stripped c listed)]
  have parts : text.filter kept = (front ++ stripWhile p text ++ back).filter kept :=
    congrArg _ whole
  rw [parts, List.filter_append, List.filter_append, nothing front before, nothing back after,
    List.nil_append, List.append_nil]

end Split

end KotlinLint.Text
