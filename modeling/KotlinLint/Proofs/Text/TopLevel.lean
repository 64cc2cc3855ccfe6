import KotlinLint.Proofs.Text.Passage

/-!
# Divisions at top-level commas

A text is either a passage or a passage that leaves nothing open, a comma and another text, so what
holds of the division of every text is shown along its parts (`topLevel_induction`). Joined by
commas the parts are the text again, no part is divided further, and only the last one leaves a
bracket or a literal open. Parts of which this is so are those of the text that they are joined to
(`splitTopLevel_eq_iff`).
-/

namespace KotlinLint.Text

namespace Scanner

/-- A passage ends where the scanner is after it. -/
theorem Passes.scan_eq {first last : Scanner} {text : List Char}
    (passes : Passes first text last) : first.scan text = last := by
  induction passes with
  | nil => rfl
  | cons _ _ ih => exact ih

/-- The scanner goes through a whole text or meets a comma that divides, before which it goes
through what stands there. -/
theorem passes_or_divides (scanner : Scanner) (text : List Char) :
    Passes scanner text (scanner.scan text) ∨
      ∃ front back, text = front ++ ',' :: back ∧ Passes scanner front (outside 0) := by
  induction text generalizing scanner with
  | nil => exact .inl .nil
  | cons c rest ih =>
    by_cases divides : scanner = outside 0 ∧ c = ','
    · obtain ⟨rfl, rfl⟩ := divides
      exact .inr ⟨[], rest, rfl, .nil⟩
    · rcases ih (scanner.step c) with passes | ⟨front, back, rfl, passes⟩
      · exact .inl (.cons divides passes)
      · exact .inr ⟨c :: front, back, rfl, .cons divides passes⟩

end Scanner

open Scanner (Passes)

/-- What holds of passages, and of a passage that leaves nothing open with a comma and a text of
which it holds after it, holds of every text. -/
theorem topLevel_induction {Holds : List Char → Prop}
    (passage : ∀ text last, Passes (.outside 0) text last → Holds text)
    (comma : ∀ front back, Passes (.outside 0) front (.outside 0) → Holds back →
      Holds (front ++ ',' :: back)) (text : List Char) : Holds text := by
  rcases Scanner.passes_or_divides (.outside 0) text with passes | ⟨front, back, rfl, passes⟩
  · exact passage text _ passes
  · exact comma front back passes (topLevel_induction passage comma back)
termination_by text.length

/-- Every text has a part. -/
theorem splitTopLevel_ne_nil (text : List Char) : splitTopLevel text ≠ [] := by
  induction text using topLevel_induction with
  | passage text last passes =>
    rw [passes.splitTopLevel]
    exact List.cons_ne_nil _ _
  | comma front back passes _ =>
    rw [passes.splitTopLevel_comma]
    exact List.cons_ne_nil _ _

/-- The parts of a text joined by commas are the text. -/
theorem intercalate_splitTopLevel (text : List Char) :
    [','].intercalate (splitTopLevel text) = text := by
  induction text using topLevel_induction with
  | passage text last passes => rw [passes.splitTopLevel, List.intercalate_singleton]
  | comma front back passes ih =>
    rw [passes.splitTopLevel_comma, List.intercalate_cons_of_ne_nil (splitTopLevel_ne_nil back), ih,
      List.append_assoc, List.singleton_append]

/-- No part is divided further. -/
theorem splitTopLevel_of_mem (text : List Char) :
    ∀ part ∈ splitTopLevel text, splitTopLevel part = [part] := by
  induction text using topLevel_induction with
  | passage text last passes =>
    rw [passes.splitTopLevel]
    exact List.forall_mem_singleton.mpr passes.splitTopLevel
  | comma front back passes ih =>
    rw [passes.splitTopLevel_comma]
    exact List.forall_mem_cons.mpr ⟨passes.splitTopLevel, ih⟩

/-- Parts before the last one leave nothing open. -/
theorem scan_of_mem_dropLast (text : List Char) :
    ∀ part ∈ (splitTopLevel text).dropLast, (Scanner.outside 0).scan part = .outside 0 := by
  induction text using topLevel_induction with
  | passage text last passes =>
    rw [passes.splitTopLevel]
    exact nofun
  | comma front back passes ih =>
    rw [passes.splitTopLevel_comma, List.dropLast_cons_of_ne_nil (splitTopLevel_ne_nil back)]
    exact List.forall_mem_cons.mpr ⟨passes.scan_eq, ih⟩

/-- A text that is not divided is a passage. -/
theorem passes_of_splitTopLevel {text : List Char} (whole : splitTopLevel text = [text]) :
    Passes (.outside 0) text ((Scanner.outside 0).scan text) := by
  rcases Scanner.passes_or_divides (.outside 0) text with passes | ⟨front, back, rfl, passes⟩
  · exact passes
  · rw [passes.splitTopLevel_comma] at whole
    exact absurd (List.cons.inj whole).2 (splitTopLevel_ne_nil back)

/-- Texts that are not divided, of which all but the last leave nothing open, are the parts of what
they are joined to by commas. -/
theorem splitTopLevel_intercalate {parts : List (List Char)} (filled : parts ≠ [])
    (whole : ∀ part ∈ parts, splitTopLevel part = [part])
    (settled : ∀ part ∈ parts.dropLast, (Scanner.outside 0).scan part = .outside 0) :
    splitTopLevel ([','].intercalate parts) = parts := by
  induction parts with
  | nil => exact absurd rfl filled
  | cons part rest ih =>
    obtain ⟨wholeHere, wholeLater⟩ := List.forall_mem_cons.mp whole
    by_cases isLast : rest = []
    · rw [isLast, List.intercalate_singleton, wholeHere]
    · rw [List.dropLast_cons_of_ne_nil isLast] at settled
      obtain ⟨settledHere, settledLater⟩ := List.forall_mem_cons.mp settled
      have passes := passes_of_splitTopLevel wholeHere
      rw [settledHere] at passes
      rw [List.intercalate_cons_of_ne_nil isLast, List.append_assoc, List.singleton_append,
        passes.splitTopLevel_comma, ih isLast wholeLater settledLater]

/-- Texts are the parts of a text exactly when there are some, they are the text when they are
joined by commas, none of them is divided further, and all but the last leave no bracket and no
literal open. -/
theorem splitTopLevel_eq_iff (text : List Char) (parts : List (List Char)) :
    splitTopLevel text = parts ↔
      parts ≠ [] ∧ [','].intercalate parts = text ∧
        (∀ part ∈ parts, splitTopLevel part = [part]) ∧
        ∀ part ∈ parts.dropLast, (Scanner.outside 0).scan part = .outside 0 := by
  constructor
  · rintro rfl
    exact ⟨splitTopLevel_ne_nil text, intercalate_splitTopLevel text, splitTopLevel_of_mem text,
      scan_of_mem_dropLast text⟩
  · rintro ⟨filled, rfl, whole, settled⟩
    exact splitTopLevel_intercalate filled whole settled

/-- A closing bracket without an opening one leaves nothing open, and a comma in a literal that is
never closed does not divide. -/
example : splitTopLevel "a),\"b,c".toList = ["a)".toList, "\"b,c".toList] := by decide

end KotlinLint.Text
