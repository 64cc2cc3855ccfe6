import KotlinLint.Toml.Reader

/-!
# TOML strings

A string stands between double quotes, and then may hold escapes, or between apostrophes, and
then holds its characters as they are. Between three marks on each side it may go over several
lines: a line end right after the opening is left out, every line end is a line feed, and up to
two marks may stand right before the closing ones.
-/

namespace KotlinLint.Toml

/-- The mark of strings without escapes. -/
def apostrophe : Char := '\x27'

/-- How a string is written. -/
structure QuoteStyle where
  /-- The character that opens and closes the string. -/
  mark : Char
  /-- Whether it is written three times, and line ends are allowed. -/
  long : Bool
deriving DecidableEq

namespace QuoteStyle

/-- Whether a backslash begins an escape. -/
def escapes (style : QuoteStyle) : Bool := style.mark = '"'

end QuoteStyle

/-- The value of a hexadecimal digit. -/
def hexValue? (c : Char) : Option Nat :=
  if '0' ≤ c ∧ c ≤ '9' then some (c.toNat - '0'.toNat)
  else if 'a' ≤ c ∧ c ≤ 'f' then some (c.toNat - 'a'.toNat + 10)
  else if 'A' ≤ c ∧ c ≤ 'F' then some (c.toNat - 'A'.toNat + 10)
  else none

/-- Read a character given by a number of hexadecimal digits. -/
def codePoint? (count : Nat) (text : List Char) : Option (Char × List Char) := do
  let digits ← (text.take count).mapM hexValue?
  let code := digits.foldl (fun code digit => 16 * code + digit) 0
  if digits.length = count ∧ code.isValidChar then some (Char.ofNat code, text.drop count)
  else none

/-- Read what follows the backslash of an escape. -/
def escape? : Reader Char
  | 'b' :: rest => some ('\x08', rest)
  | 't' :: rest => some ('\t', rest)
  | 'n' :: rest => some ('\n', rest)
  | 'f' :: rest => some ('\x0c', rest)
  | 'r' :: rest => some ('\r', rest)
  | '"' :: rest => some ('"', rest)
  | '\\' :: rest => some ('\\', rest)
  | 'u' :: rest => codePoint? 4 rest
  | 'U' :: rest => codePoint? 8 rest
  | _ => none

/-- Read one piece of the inside of a string: a character, or nothing for a backslash before a
line end, which joins the lines. -/
def piece? (style : QuoteStyle) : Reader (List Char)
  | [] => none
  | c :: rest =>
    if c = '\\' ∧ style.escapes then
      match if style.long then newline? (skipSpaces rest) else none with
      | some joined => some ([], skipLines joined)
      | none => (escape? rest).map fun (written, after) => ([written], after)
    else if isLineChar c then some ([c], rest)
    else if style.long then (newline? (c :: rest)).map (['\n'], ·)
    else none

/-- The digits of a character are taken from the text. -/
theorem codePoint?_length_le {count : Nat} {text rest : List Char} {written : Char}
    (read : codePoint? count text = some (written, rest)) : rest.length ≤ text.length := by
  simp only [codePoint?, Option.bind_eq_bind, Option.bind_eq_some_iff] at read
  obtain ⟨digits, _, chosen⟩ := read
  split at chosen
  · simp only [Option.some.injEq, Prod.mk.injEq] at chosen
    simp [← chosen.2]
  · contradiction

/-- An escape has a length. -/
theorem escape?_length_lt {text rest : List Char} {written : Char}
    (read : escape? text = some (written, rest)) : rest.length < text.length := by
  unfold escape? at read
  split at read <;> first
    | (have shorter := codePoint?_length_le read
       simp only [List.length_cons]
       omega)
    | (simp only [Option.some.injEq, Prod.mk.injEq] at read
       simp [← read.2])
    | contradiction

/-- Every piece has a length. -/
theorem piece?_length_lt {style : QuoteStyle} {text rest written : List Char}
    (read : piece? style text = some (written, rest)) : rest.length < text.length := by
  unfold piece? at read
  split at read
  · contradiction
  · rename_i c tail
    split at read
    · split at read
      · rename_i joined found
        split at found
        · have fewer := newline?_length_lt found
          have blanks := skipSpaces_length_le tail
          have lines := skipLines_length_le joined
          simp only [Option.some.injEq, Prod.mk.injEq] at read
          simp only [← read.2, List.length_cons]
          omega
        · contradiction
      · simp only [Option.map_eq_some_iff, Prod.exists, Prod.mk.injEq] at read
        obtain ⟨_, after, escaped, _, rfl⟩ := read
        have fewer := escape?_length_lt escaped
        simp only [List.length_cons]
        omega
    · split at read
      · simp only [Option.some.injEq, Prod.mk.injEq] at read
        simp [← read.2]
      · split at read
        · simp only [Option.map_eq_some_iff, Prod.mk.injEq] at read
          obtain ⟨after, ended, _, rfl⟩ := read
          exact newline?_length_lt ended
        · contradiction

/-- The text after the marks that close a string, with the marks before them that belong to the
string. -/
def closing? (style : QuoteStyle) (text : List Char) : Option (List Char × List Char) :=
  let marks := text.takeWhile (· = style.mark)
  if style.long then
    if 3 ≤ marks.length then
      let inner := min (marks.length - 3) 2
      some (List.replicate inner style.mark, text.drop (inner + 3))
    else none
  else if marks.isEmpty then none
  else some ([], text.drop 1)

/-- Read the inside of a string and the marks that close it. -/
def inside? (style : QuoteStyle) (text : List Char) : Option (List Char × List Char) :=
  match closing? style text with
  | some closed => some closed
  | none =>
    match _read : piece? style text with
    | none => none
    | some (written, rest) =>
      (inside? style rest).map fun (content, after) => (written ++ content, after)
termination_by text.length
decreasing_by exact piece?_length_lt _read

/-- Read a string on one line. -/
def shortString? : Reader String
  | [] => none
  | mark :: rest =>
    if mark = '"' ∨ mark = apostrophe then
      (inside? ⟨mark, false⟩ rest).map fun (content, after) => (String.ofList content, after)
    else none

/-- Read a string of any style. -/
def quoted? : Reader String
  | first :: second :: third :: rest =>
    if first = second ∧ second = third ∧ (first = '"' ∨ first = apostrophe) then
      let body := (newline? rest).getD rest
      (inside? ⟨first, true⟩ body).map fun (content, after) => (String.ofList content, after)
    else shortString? (first :: second :: third :: rest)
  | text => shortString? text

end KotlinLint.Toml
