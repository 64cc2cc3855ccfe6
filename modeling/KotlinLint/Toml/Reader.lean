/-!
# Readers of TOML text

A reader takes a value from the front of a text and answers it with the text after it, or
refuses. Blanks are spaces and tabs, a line ends with a line feed or with a carriage return and
a line feed, and a comment runs from a number sign to the end of its line.
-/

namespace KotlinLint.Toml

/-- A reader of the front of a text. -/
abbrev Reader (α : Type) := List Char → Option (α × List Char)

/-- A space or a tab. -/
def isSpace (c : Char) : Bool := c = ' ' || c = '\t'

/-- A character that may stand in a line: any but the control characters other than the tab. -/
def isLineChar (c : Char) : Bool := c = '\t' || 32 ≤ c.toNat && c.toNat ≠ 127

/-- Leave out the spaces and tabs at the front. -/
def skipSpaces (text : List Char) : List Char := text.dropWhile isSpace

/-- The text after the line end at the front. -/
def newline? : List Char → Option (List Char)
  | '\n' :: rest => some rest
  | '\r' :: '\n' :: rest => some rest
  | _ => none

/-- Leave out the blanks and line ends at the front. -/
def skipLines : List Char → List Char
  | ' ' :: rest => skipLines rest
  | '\t' :: rest => skipLines rest
  | '\n' :: rest => skipLines rest
  | '\r' :: '\n' :: rest => skipLines rest
  | text => text

/-- Leave out the blanks, line ends and comments at the front, from within a comment or not. A
comment has to end with its line. -/
def skipFiller (inComment : Bool) : List Char → Option (List Char)
  | [] => if inComment then none else some []
  | '\n' :: rest => skipFiller false rest
  | '\r' :: '\n' :: rest => skipFiller false rest
  | c :: rest =>
    if inComment then if isLineChar c then skipFiller true rest else none
    else if isSpace c then skipFiller false rest
    else if c = '#' then skipFiller true rest
    else some (c :: rest)

/-- The text after the rest of a line that holds nothing but blanks and a comment. The last line
may end with the text. -/
def endLine? (text : List Char) : Option (List Char) :=
  let tail :=
    match skipSpaces text with
    | '#' :: comment => comment.dropWhile isLineChar
    | other => other
  if tail.isEmpty then some [] else newline? tail

/-- What an item of a list is followed by: a comma, or the mark that closes the list. -/
def separator? (close : Char) : List Char → Option (Bool × List Char)
  | ',' :: rest => some (true, rest)
  | c :: rest => if c = close then some (false, rest) else none
  | [] => none

/-- Leaving out blanks does not lengthen a text. -/
theorem skipSpaces_length_le (text : List Char) : (skipSpaces text).length ≤ text.length :=
  (List.dropWhile_suffix _).length_le

/-- A line end has a length. -/
theorem newline?_length_lt {text rest : List Char} (read : newline? text = some rest) :
    rest.length < text.length := by
  unfold newline? at read
  split at read
  · simp_all
  · obtain rfl := Option.some.inj read
    simp only [List.length_cons]
    omega
  · contradiction

/-- Leaving out line ends does not lengthen a text. -/
theorem skipLines_length_le (text : List Char) : (skipLines text).length ≤ text.length := by
  fun_induction skipLines text with
  | case1 rest ih => exact Nat.le_succ_of_le ih
  | case2 rest ih => exact Nat.le_succ_of_le ih
  | case3 rest ih => exact Nat.le_succ_of_le ih
  | case4 rest ih => exact Nat.le_succ_of_le (Nat.le_succ_of_le ih)
  | case5 => exact Nat.le_refl _

end KotlinLint.Toml
