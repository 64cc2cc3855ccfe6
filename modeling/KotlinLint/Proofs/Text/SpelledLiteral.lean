import KotlinLint.Proofs.Text.Passage
import KotlinLint.Toml.Number

/-!
# Spelled string literals

Kotlin spells a character of a plain literal as itself, by a backslash and a mark, or by the four
hexadecimal digits of its code, of which a character beyond 16 bits takes two groups
(`Quoted.Spelling.Denotes`). The reader knows each mark but the one for the backspace, and no codes:
it takes the character after a backslash for itself (`Quoted.contents_spelled`). So a spelled text
is read as itself exactly when it is spelled without these two (`Quoted.readAs_eq_iff`). However it
is spelled, a literal is a passage of an argument list (`Scanner.Passes.of_spelledLiteral`).
-/

namespace KotlinLint.Text

namespace Quoted

/-- The marks after a backslash with the characters that they denote. -/
def escapes : List (Char × Char) :=
  [('t', '\t'), ('b', '\x08'), ('n', '\n'), ('r', '\r'), ('\'', '\''), ('"', '"'), ('\\', '\\'),
    ('$', '$')]

/-- How a plain literal spells a character. -/
inductive Spelling where
  /-- The character as it is. -/
  | itself (c : Char)
  /-- A backslash and a mark. -/
  | escape (mark : Char)
  /-- The code of the character. -/
  | code (digits : List Char)
  /-- The codes of the two surrogates of a character beyond 16 bits. -/
  | surrogates (high low : List Char)

/-- Whether a text is four hexadecimal digits. -/
def IsCode (digits : List Char) : Prop :=
  digits.length = 4 ∧ ∀ digit ∈ digits, Toml.isDigitOf 16 digit = true

instance (digits : List Char) : Decidable (IsCode digits) :=
  decidable_of_iff (digits.length = 4 ∧ digits.all (Toml.isDigitOf 16) = true)
    (and_congr_right fun _ => List.all_eq_true)

namespace Spelling

/-- How a spelling is written. -/
def write : Spelling → List Char
  | itself c => [c]
  | escape mark => ['\\', mark]
  | code digits => '\\' :: 'u' :: digits
  | surrogates high low => '\\' :: 'u' :: (high ++ '\\' :: 'u' :: low)

/-- Whether a spelling denotes a character. -/
def Denotes : Spelling → Char → Prop
  | itself c, denoted => c = denoted ∧ c ∉ ['"', '\\', '$', '\n', '\r']
  | escape mark, denoted => (mark, denoted) ∈ escapes
  | code digits, denoted => IsCode digits ∧ Toml.ofDigits 16 digits = denoted.toNat
  | surrogates high low, denoted => (IsCode high ∧ IsCode low) ∧
      (0xD800 ≤ Toml.ofDigits 16 high ∧ Toml.ofDigits 16 high < 0xDC00) ∧
      (0xDC00 ≤ Toml.ofDigits 16 low ∧ Toml.ofDigits 16 low < 0xE000) ∧
      denoted.toNat =
        0x10000 + (Toml.ofDigits 16 high - 0xD800) * 0x400 + (Toml.ofDigits 16 low - 0xDC00)

/-- What the reader takes a spelling for. -/
def readAs : Spelling → List Char
  | itself c => [c]
  | escape mark => [escaped mark]
  | code digits => 'u' :: digits
  | surrogates high low => 'u' :: (high ++ 'u' :: low)

/-- Whether the reader knows a spelling: it knows every mark but that of the backspace, and no
codes. -/
def IsKnown : Spelling → Prop
  | itself _ => True
  | escape mark => mark ≠ 'b'
  | code _ => False
  | surrogates _ _ => False

instance : (spelling : Spelling) → (c : Char) → Decidable (spelling.Denotes c)
  | itself d, c => inferInstanceAs (Decidable (d = c ∧ d ∉ ['"', '\\', '$', '\n', '\r']))
  | escape mark, c => inferInstanceAs (Decidable ((mark, c) ∈ escapes))
  | code digits, c =>
    inferInstanceAs (Decidable (IsCode digits ∧ Toml.ofDigits 16 digits = c.toNat))
  | surrogates high low, _ => inferInstanceAs (Decidable ((IsCode high ∧ IsCode low) ∧ _))

instance : DecidablePred IsKnown
  | itself _ => inferInstanceAs (Decidable True)
  | escape mark => inferInstanceAs (Decidable (mark ≠ 'b'))
  | code _ => inferInstanceAs (Decidable False)
  | surrogates _ _ => inferInstanceAs (Decidable False)

end Spelling

/-- A character with its spelling in a plain literal. -/
structure SpelledChar where
  char : Char
  spelling : Spelling
  denotes : spelling.Denotes char

/-- The text that is spelled. -/
def content (spelled : List SpelledChar) : List Char := spelled.map SpelledChar.char

/-- What the reader takes a spelled text for. -/
def readAs (spelled : List SpelledChar) : List Char := spelled.flatMap fun c => c.spelling.readAs

/-- What stands between the quotes of a spelled literal. -/
def spelledInside (spelled : List SpelledChar) : List Char :=
  spelled.flatMap fun c => c.spelling.write

/-- A literal as it is spelled. -/
def spelledLiteral (spelled : List SpelledChar) : List Char :=
  '"' :: (spelledInside spelled ++ ['"'])

/-- Whether the reader knows all spellings in a text. -/
def IsKnown (spelled : List SpelledChar) : Prop := ∀ c ∈ spelled, c.spelling.IsKnown

instance : DecidablePred IsKnown := fun spelled =>
  inferInstanceAs (Decidable (∀ c ∈ spelled, c.spelling.IsKnown))

/-- Every character has a spelling that the reader knows. -/
theorem exists_spelling (c : Char) :
    ∃ spelling : Spelling, spelling.Denotes c ∧ spelling.IsKnown := by
  by_cases special : c ∈ ['"', '\\', '$', '\n', '\r']
  · simp only [List.mem_cons, List.not_mem_nil, or_false] at special
    rcases special with rfl | rfl | rfl | rfl | rfl
    · exact ⟨.escape '"', by decide, by decide⟩
    · exact ⟨.escape '\\', by decide, by decide⟩
    · exact ⟨.escape '$', by decide, by decide⟩
    · exact ⟨.escape 'n', by decide, by decide⟩
    · exact ⟨.escape 'r', by decide, by decide⟩
  · exact ⟨.itself c, ⟨rfl, special⟩, trivial⟩

/-- Every text can be spelled so that the reader knows all spellings. -/
theorem exists_spelled (text : List Char) :
    ∃ spelled, content spelled = text ∧ IsKnown spelled := by
  induction text with
  | nil => exact ⟨[], rfl, List.forall_mem_nil _⟩
  | cons c rest ih =>
    obtain ⟨spelled, same, known⟩ := ih
    obtain ⟨spelling, denotes, isKnown⟩ := exists_spelling c
    refine ⟨⟨c, spelling, denotes⟩ :: spelled, ?_, List.forall_mem_cons.mpr ⟨isKnown, known⟩⟩
    rw [content, List.map_cons, ← content, same]

/-- The digits of a code are not special. -/
theorem IsCode.notMem {digits : List Char} (isCode : IsCode digits) :
    ∀ c ∈ digits, c ∉ ['\\', '"', '$'] := by
  intro c listed special
  have digit := isCode.2 c listed
  simp only [List.mem_cons, List.not_mem_nil, or_false] at special
  rcases special with rfl | rfl | rfl <;> cases digit

/-- A character that stands for itself is not special. -/
theorem notMem_of_denotes {c denoted : Char} (denotes : (Spelling.itself c).Denotes denoted) :
    c ∉ ['\\', '"', '$'] := by
  have notListed := denotes.2
  simp only [List.mem_cons, List.not_mem_nil, or_false, not_or] at notListed ⊢
  exact ⟨notListed.2.1, notListed.1, notListed.2.2.1⟩

/-- The inside of a literal is read spelling by spelling. -/
theorem contents_write_append {spelling : Spelling} {c : Char} (denotes : spelling.Denotes c)
    (rest : List Char) :
    contents (spelling.write ++ rest) = (contents rest).map (spelling.readAs ++ ·) := by
  have marked : escaped 'u' = 'u' := rfl
  cases spelling with
  | itself d =>
    exact contents_plain_append (List.forall_mem_singleton.mpr (notMem_of_denotes denotes)) rest
  | escape mark => exact contents_escape mark rest
  | code digits =>
    simp only [Spelling.write, Spelling.readAs, List.cons_append]
    rw [contents_escape, contents_plain_append denotes.1.notMem, Option.map_map, marked]
    rfl
  | surrogates high low =>
    simp only [Spelling.write, Spelling.readAs, List.cons_append, List.append_assoc]
    rw [contents_escape, contents_plain_append denotes.1.1.notMem, contents_escape,
      contents_plain_append denotes.1.2.notMem, Option.map_map, Option.map_map, Option.map_map,
      marked]
    rfl

/-- A spelled literal is read as the reader takes its spellings. -/
theorem contents_spelled (spelled : List SpelledChar) :
    contents (spelledInside spelled) = some (readAs spelled) := by
  induction spelled with
  | nil => rfl
  | cons c rest ih =>
    rw [spelledInside, List.flatMap_cons, ← spelledInside, contents_write_append c.denotes, ih]
    rfl

/-- A spelled literal is a literal. -/
theorem read_spelledLiteral (spelled : List SpelledChar) :
    read (spelledLiteral spelled) = some (readAs spelled) :=
  read_between_quotes (contents_spelled spelled)

/-- The reader takes no spelling for nothing. -/
theorem readAs_length_pos (spelling : Spelling) : 0 < spelling.readAs.length := by
  cases spelling <;> simp [Spelling.readAs]

/-- The reader takes a spelled text for at least as many characters. -/
theorem content_length_le (spelled : List SpelledChar) :
    (content spelled).length ≤ (readAs spelled).length := by
  induction spelled with
  | nil => exact Nat.le_refl 0
  | cons c rest ih =>
    have here := readAs_length_pos c.spelling
    have split : readAs (c :: rest) = c.spelling.readAs ++ readAs rest := rfl
    rw [split, List.length_append]
    rw [content, List.length_map] at ih ⊢
    rw [List.length_cons]
    omega

/-- The reader takes a mark that it knows for what the mark denotes, and no other mark. -/
theorem escaped_eq_iff {mark c : Char} (listed : (mark, c) ∈ escapes) :
    escaped mark = c ↔ mark ≠ 'b' := by
  simp only [escapes, List.mem_cons, Prod.mk.injEq, List.not_mem_nil, or_false] at listed
  rcases listed with ⟨rfl, rfl⟩ | ⟨rfl, rfl⟩ | ⟨rfl, rfl⟩ | ⟨rfl, rfl⟩ | ⟨rfl, rfl⟩ | ⟨rfl, rfl⟩ |
    ⟨rfl, rfl⟩ | ⟨rfl, rfl⟩ <;> decide

/-- What begins with the code of a character is longer than a text that begins with the
character. -/
theorem readAs_cons_eq_iff {spelling : Spelling} {c : Char} (denotes : spelling.Denotes c)
    {rest read : List Char} (atLeast : rest.length ≤ read.length) :
    spelling.readAs ++ read = c :: rest ↔ spelling.IsKnown ∧ read = rest := by
  have longer : ∀ {digits more : List Char}, IsCode digits → read.length ≤ more.length →
      'u' :: (digits ++ more) ≠ c :: rest := by
    intro digits more isCode most same
    have lengths := congrArg List.length same
    have four := isCode.1
    simp only [List.length_append, List.length_cons] at lengths
    omega
  cases spelling with
  | itself d =>
    obtain ⟨rfl, _⟩ := denotes
    simp [Spelling.readAs, Spelling.IsKnown]
  | escape mark => simp [Spelling.readAs, Spelling.IsKnown, escaped_eq_iff denotes]
  | code digits =>
    have differs := longer denotes.1 (Nat.le_refl _)
    exact ⟨fun same => absurd same differs, fun known => known.1.elim⟩
  | surrogates high low =>
    have most : read.length ≤ ('u' :: (low ++ read)).length := by
      simp only [List.length_cons, List.length_append]
      omega
    have differs := longer denotes.1.1 most
    have split : (Spelling.surrogates high low).readAs ++ read =
        'u' :: (high ++ 'u' :: (low ++ read)) := by simp [Spelling.readAs]
    exact ⟨fun same => absurd (split.symm.trans same) differs, fun known => known.1.elim⟩

/-- A spelled text is read as itself exactly when the reader knows its spellings. -/
theorem readAs_eq_iff (spelled : List SpelledChar) :
    readAs spelled = content spelled ↔ IsKnown spelled := by
  induction spelled with
  | nil => exact ⟨fun _ => List.forall_mem_nil _, fun _ => rfl⟩
  | cons c rest ih =>
    have split : readAs (c :: rest) = c.spelling.readAs ++ readAs rest := rfl
    have whole : content (c :: rest) = c.char :: content rest := rfl
    rw [split, whole, readAs_cons_eq_iff c.denotes (content_length_le rest), ih]
    simp only [IsKnown, List.forall_mem_cons]

/-- A spelled literal has no blank at either end. -/
theorem isTight_spelledLiteral (spelled : List SpelledChar) : IsTight (spelledLiteral spelled) :=
  isTight_between_quotes (spelledInside spelled)

end Quoted

namespace Scanner

open Quoted

/-- A spelling is a passage in a literal. -/
theorem Passes.of_spelling (depth : Nat) {spelling : Spelling} {c : Char}
    (denotes : spelling.Denotes c) :
    Passes (inside depth false) spelling.write (inside depth false) := by
  cases spelling with
  | itself d => exact .of_plain (List.forall_mem_singleton.mpr (notMem_of_denotes denotes))
  | escape mark => exact .of_escape depth mark
  | code digits => exact (of_escape depth 'u').append (.of_plain denotes.1.notMem)
  | surrogates high low =>
    exact (of_escape depth 'u').append ((Passes.of_plain denotes.1.1.notMem).append
      ((of_escape depth 'u').append (.of_plain denotes.1.2.notMem)))

/-- A literal is a passage, however it is spelled. -/
theorem Passes.of_spelledLiteral (depth : Nat) (spelled : List SpelledChar) :
    Passes (outside depth) (spelledLiteral spelled) (outside depth) := by
  have within : Passes (inside depth false) (spelledInside spelled) (inside depth false) := by
    induction spelled with
    | nil => exact .nil
    | cons c rest ih =>
      rw [spelledInside, List.flatMap_cons]
      exact (of_spelling depth c.denotes).append ih
  exact .between_quotes within

end Scanner

end KotlinLint.Text
