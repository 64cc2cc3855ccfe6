/-!
# Quoted text

A plain string literal stands between double quotes. A backslash and the character after it
write one character: `\n`, `\t` and `\r` are the line feed, the tab and the carriage return, and
every other character stands for itself. A double quote or a dollar sign without a backslash
is refused, so raw strings and templates are no plain literals.
-/

namespace KotlinLint.Text.Quoted

/-- The character that a backslash followed by this one writes. -/
def escaped (c : Char) : Char :=
  if c = 'n' then '\n' else if c = 't' then '\t' else if c = 'r' then '\r' else c

/-- The characters written between the quotes, or none when the text is not the inside of a
plain literal. -/
def contents : List Char → Option (List Char)
  | [] => some []
  | ['\\'] => none
  | '\\' :: c :: rest => (contents rest).map (escaped c :: ·)
  | c :: rest => if c = '"' ∨ c = '$' then none else (contents rest).map (c :: ·)

/-- The characters written by a plain string literal, quotes included in the text. -/
def read : List Char → Option (List Char)
  | '"' :: rest => if rest.getLast? = some '"' then contents rest.dropLast else none
  | _ => none

end KotlinLint.Text.Quoted
