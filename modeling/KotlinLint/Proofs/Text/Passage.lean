import KotlinLint.Proofs.Text.Gap
import KotlinLint.Proofs.Text.Literal
import KotlinLint.Text.Brackets

/-!
# Passages of an argument list

A passage is a text that the scanner of an argument list goes through without meeting a comma that
divides (`Scanner.Passes`). Passages after each other make a passage. A text of unmarked
characters is one, and so is a string literal, whatever it says, and an expression whose commas
are all inside brackets. A list divides after a passage that leaves nothing open, and not within
it (`Scanner.Passes.splitTopLevel_comma`).
-/

namespace KotlinLint.Text

/-- Whether a character opens a bracket. -/
def isOpening (c : Char) : Bool := c = '(' || c = '[' || c = '\x7b'

/-- Whether a character closes a bracket. -/
def isClosing (c : Char) : Bool := c = ')' || c = ']' || c = '\x7d'

/-- Whether a character may change what is open or divide an argument list. -/
def isMark (c : Char) : Bool := c = '"' || c = ',' || isOpening c || isClosing c

/-- A property that no mark has is a property of unmarked characters only. -/
theorem isMark_eq_false {p : Char → Bool} {c : Char} (holds : p c = true)
    (fails : (['"', ',', '(', '[', '\x7b', ')', ']', '\x7d'].any p) = false) :
    isMark c = false := by
  rw [← Bool.not_eq_true]
  intro marked
  have listed : c ∈ ['"', ',', '(', '[', '\x7b', ')', ']', '\x7d'] := by
    simpa [isMark, isOpening, isClosing, or_assoc] using marked
  exact absurd holds (List.any_eq_false.mp fails c listed)

namespace Scanner

/-- Whether the scanner goes through a text, from what is open before it to what is open after it,
and meets no comma that divides. -/
inductive Passes : Scanner → List Char → Scanner → Prop where
  /-- There is nothing to go through. -/
  | nil {scanner : Scanner} : Passes scanner [] scanner
  /-- The scanner goes on past a character that is no dividing comma. -/
  | cons {scanner last : Scanner} {c : Char} {rest : List Char} :
      ¬ (scanner = outside 0 ∧ c = ',') → Passes (scanner.step c) rest last →
      Passes scanner (c :: rest) last

/-- Passages after each other are a passage. -/
theorem Passes.append {first second third : Scanner} {front back : List Char}
    (passes : Passes first front second) (onward : Passes second back third) :
    Passes first (front ++ back) third := by
  induction passes with
  | nil => exact onward
  | cons goesOn _ ih => exact .cons goesOn (ih onward)

/-- The first part of a text begins with a passage, and the rest is divided as from what the
passage leaves open. -/
theorem Passes.parts_append {first last : Scanner} {text : List Char}
    (passes : Passes first text last) (rest : List Char) :
    first.parts (text ++ rest) = (last.parts rest).modifyHead (text ++ ·) := by
  induction passes with
  | nil =>
    rw [List.nil_append]
    exact (congrFun List.modifyHead_id _).symm
  | cons goesOn _ ih =>
    rw [List.cons_append, parts, if_neg goesOn, ih, List.modifyHead_modifyHead]
    rfl

/-- A passage is not divided. -/
theorem Passes.splitTopLevel {text : List Char} {last : Scanner}
    (passes : Passes (outside 0) text last) : splitTopLevel text = [text] := by
  have parts := passes.parts_append []
  rw [List.append_nil] at parts
  rw [Text.splitTopLevel, parts, Scanner.parts, List.modifyHead_cons, List.append_nil]

/-- A comma after a passage that leaves nothing open divides. -/
theorem Passes.splitTopLevel_comma {text : List Char} (passes : Passes (outside 0) text (outside 0))
    (rest : List Char) :
    Text.splitTopLevel (text ++ ',' :: rest) = text :: Text.splitTopLevel rest := by
  rw [Text.splitTopLevel, passes.parts_append, parts, if_pos ⟨rfl, rfl⟩, List.modifyHead_cons,
    List.append_nil, Text.splitTopLevel]

/-- Outside a literal only brackets change what is open, as long as no literal begins. -/
theorem step_outside {c : Char} (noQuote : c ≠ '"') (depth : Nat) :
    (outside depth).step c =
      if isOpening c then outside (depth + 1) else if isClosing c then outside (depth - 1)
      else outside depth := by
  simp [step, noQuote, isOpening, isClosing, or_assoc]

/-- No bracket both opens and closes. -/
theorem isClosing_of_isOpening {c : Char} (opening : isOpening c = true) : isClosing c = false := by
  simp only [isOpening, Bool.or_eq_true, decide_eq_true_eq] at opening
  obtain (rfl | rfl) | rfl := opening <;> rfl

/-- A text without double quotes is a passage when every closing bracket in it closes an open one
and every comma in it is inside a bracket. Brackets that are open before the text count. -/
theorem Passes.of_enclosed {depth : Nat} {text : List Char} (noQuote : '"' ∉ text)
    (opened : ∀ front back, text = front ++ back →
      front.countP isClosing ≤ depth + front.countP isOpening)
    (enclosed : ∀ front back, text = front ++ ',' :: back →
      front.countP isClosing < depth + front.countP isOpening) :
    Passes (outside depth) text
      (outside (depth + text.countP isOpening - text.countP isClosing)) := by
  induction text generalizing depth with
  | nil => exact .nil
  | cons c rest ih =>
    rw [List.mem_cons, not_or] at noQuote
    obtain ⟨noQuoteHere, noQuoteLater⟩ := noQuote
    have goesOn : ¬ (outside depth = outside 0 ∧ c = ',') := by
      rintro ⟨nothingOpen, rfl⟩
      have inside := enclosed [] rest rfl
      cases nothingOpen
      exact absurd inside (by simp)
    -- The rest is scanned from the depth after the first character, against which it is balanced
    -- as the whole text is against the depth before it.
    have onward : ∀ next : Nat,
        (∀ front : List Char, depth + (c :: front).countP isOpening + front.countP isClosing =
          next + front.countP isOpening + (c :: front).countP isClosing) →
        (outside depth).step c = outside next →
        Passes (outside depth) (c :: rest)
          (outside (depth + (c :: rest).countP isOpening - (c :: rest).countP isClosing)) := by
      intro next shifted stepped
      have passes : Passes (outside next) rest
          (outside (next + rest.countP isOpening - rest.countP isClosing)) := by
        refine ih noQuoteLater ?_ ?_
        · intro front back whole
          have bound := opened (c :: front) back (by rw [whole, List.cons_append])
          have shift := shifted front
          omega
        · intro front back whole
          have bound := enclosed (c :: front) back (by rw [whole, List.cons_append])
          have shift := shifted front
          omega
      have sameDepth : next + rest.countP isOpening - rest.countP isClosing =
          depth + (c :: rest).countP isOpening - (c :: rest).countP isClosing := by
        have shift := shifted rest
        omega
      rw [sameDepth, ← stepped] at passes
      exact .cons goesOn passes
    have stepped := step_outside (Ne.symm noQuoteHere) depth
    by_cases opening : isOpening c = true
    · have notClosing := isClosing_of_isOpening opening
      refine onward (depth + 1) (fun front => ?_) (by rw [stepped, if_pos opening])
      rw [List.countP_cons_of_pos opening, List.countP_cons_of_neg (by simp [notClosing])]
      omega
    · by_cases closing : isClosing c = true
      · have wasOpen := opened [c] rest rfl
        rw [List.countP_singleton, List.countP_singleton, if_pos closing, if_neg opening] at wasOpen
        refine onward (depth - 1) (fun front => ?_)
          (by rw [stepped, if_neg opening, if_pos closing])
        rw [List.countP_cons_of_neg opening, List.countP_cons_of_pos closing]
        omega
      · refine onward depth (fun front => ?_) (by rw [stepped, if_neg opening, if_neg closing])
        rw [List.countP_cons_of_neg opening, List.countP_cons_of_neg closing]

/-- Characters that are no marks change nothing. -/
theorem Passes.of_unmarked {depth : Nat} {text : List Char}
    (unmarked : ∀ c ∈ text, isMark c = false) : Passes (outside depth) text (outside depth) := by
  have absent : ∀ mark, isMark mark = true → mark ∉ text := by
    intro mark marked listed
    rw [unmarked mark listed] at marked
    cases marked
  have noOpening : text.countP isOpening = 0 :=
    List.countP_eq_zero.mpr fun c listed opening => absent c (by simp [isMark, opening]) listed
  have noClosing : text.countP isClosing = 0 :=
    List.countP_eq_zero.mpr fun c listed closing => absent c (by simp [isMark, closing]) listed
  have passes : Passes (outside depth) text
      (outside (depth + text.countP isOpening - text.countP isClosing)) := by
    refine .of_enclosed (absent '"' rfl) ?_ ?_
    · intro front back whole
      have fewer : front.countP isClosing ≤ text.countP isClosing := by
        rw [whole, List.countP_append]
        exact Nat.le_add_right _ _
      omega
    · intro front back whole
      exact absurd (by simp [whole]) (absent ',' rfl)
  rwa [noOpening, noClosing] at passes

/-- A gap is a passage. -/
theorem Passes.of_gap {depth : Nat} {gap : List Char} (isGap : IsGap gap) :
    Passes (outside depth) gap (outside depth) :=
  .of_unmarked fun c listed => isMark_eq_false (isGap c listed) rfl

/-- A passage between gaps is a passage. -/
theorem Passes.between {depth : Nat} {text before after : List Char}
    (passes : Passes (outside depth) text (outside depth)) (front : IsGap before)
    (back : IsGap after) : Passes (outside depth) (before ++ text ++ after) (outside depth) :=
  ((Passes.of_gap front).append passes).append (.of_gap back)

/-- No comma divides inside a literal. -/
theorem Passes.cons_inside {depth : Nat} {escaping : Bool} {c : Char} {rest : List Char}
    {last : Scanner} (passes : Passes ((inside depth escaping).step c) rest last) :
    Passes (inside depth escaping) (c :: rest) last := by
  refine .cons ?_ passes
  intro divides
  cases divides.1

/-- Characters of a literal that are neither double quotes nor backslashes are a passage in it. -/
theorem Passes.of_plain {depth : Nat} {text : List Char}
    (plain : ∀ c ∈ text, c ∉ ['\\', '"', '$']) :
    Passes (inside depth false) text (inside depth false) := by
  induction text with
  | nil => exact .nil
  | cons c rest ih =>
    obtain ⟨here, later⟩ := List.forall_mem_cons.mp plain
    simp only [List.mem_cons, List.not_mem_nil, or_false, not_or] at here
    refine .cons_inside ?_
    rw [step, if_neg here.1, if_neg here.2.1]
    exact ih later

/-- A backslash and the character after it are a passage in a literal. -/
theorem Passes.of_escape (depth : Nat) (c : Char) :
    Passes (inside depth false) ['\\', c] (inside depth false) :=
  .cons_inside (.cons_inside .nil)

/-- What a literal says is a passage from inside the literal to inside it. -/
theorem Passes.of_inside (depth : Nat) (content : List Char) :
    Passes (inside depth false) (Quoted.inside content) (inside depth false) := by
  induction content with
  | nil => exact .nil
  | cons c rest ih =>
    rw [Quoted.inside, List.flatMap_cons]
    refine .append ?_ ih
    rw [Quoted.writeChar]
    split
    case isTrue => exact .of_escape depth c
    case isFalse plain =>
      have notSpecial : c ∉ ['\\', '"', '$'] := by simpa using plain
      exact .of_plain (List.forall_mem_singleton.mpr notSpecial)

/-- A passage in a literal is one with the quotes around it. -/
theorem Passes.between_quotes {depth : Nat} {inner : List Char}
    (within : Passes (inside depth false) inner (inside depth false)) :
    Passes (outside depth) ('"' :: (inner ++ ['"'])) (outside depth) := by
  refine .cons (by rintro ⟨_, ⟨⟩⟩) ?_
  exact .append within (.cons_inside .nil)

/-- A string literal is a passage, whatever it says. -/
theorem Passes.of_write (depth : Nat) (content : List Char) :
    Passes (outside depth) (Quoted.write content) (outside depth) :=
  .between_quotes (.of_inside depth content)

end Scanner

end KotlinLint.Text
