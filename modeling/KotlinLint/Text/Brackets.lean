/-!
# Top-level commas

An argument list is divided at its commas, but not at those inside brackets or string
literals. The scanner remembers how many brackets are open and whether it is inside a literal;
a closing bracket with none open changes nothing, and brackets are not matched by kind.
-/

namespace KotlinLint.Text

/-- What is open at a place in an argument list. -/
inductive Scanner where
  /-- Outside a string literal, with the number of open brackets. -/
  | outside (depth : Nat)
  /-- Inside a string literal that began at a depth; whether the last character was a backslash
  that escapes the next one. -/
  | inside (depth : Nat) (escaping : Bool)
deriving DecidableEq

namespace Scanner

/-- What is open after one more character. -/
def step : Scanner → Char → Scanner
  | outside depth, c =>
    if c = '"' then inside depth false
    else if c = '(' ∨ c = '[' ∨ c = '\x7b' then outside (depth + 1)
    else if c = ')' ∨ c = ']' ∨ c = '\x7d' then outside (depth - 1)
    else outside depth
  | inside depth true, _ => inside depth false
  | inside depth false, c =>
    if c = '\\' then inside depth true
    else if c = '"' then outside depth
    else inside depth false

/-- What is open after a text. -/
def scan (scanner : Scanner) (text : List Char) : Scanner := text.foldl step scanner

/-- The parts of a text between the commas met outside brackets and literals. -/
def parts (scanner : Scanner) : List Char → List (List Char)
  | [] => [[]]
  | c :: rest =>
    if scanner = outside 0 ∧ c = ',' then [] :: parts scanner rest
    else (parts (scanner.step c) rest).modifyHead (c :: ·)

end Scanner

/-- The parts of an argument list between its top-level commas. -/
def splitTopLevel (text : List Char) : List (List Char) := (Scanner.outside 0).parts text

end KotlinLint.Text
