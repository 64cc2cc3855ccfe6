import KotlinLint.Toml.Number

/-!
# TOML date-times

A date, a time, or a date and a time between which stands a `T` or a space; the time of a date
may have an offset. Days have to exist, hours go to 23, minutes to 59 and seconds to 60. Of the
spellings of one date-time the canonical one is kept.
-/

namespace KotlinLint.Toml

/-- Read a number of exactly as many digits. -/
def fixedNat? (count : Nat) : Reader Nat := fun text =>
  let digits := text.take count
  if digits.length = count && digits.all (isDigitOf 10) then
    some (ofDigits 10 digits, text.drop count)
  else none

/-- Read a character of a set. -/
def oneOf? (chars : List Char) : List Char → Option (List Char)
  | [] => none
  | c :: rest => if chars.contains c then some rest else none

/-- The number of days of a month. -/
def daysInMonth (year month : Nat) : Nat :=
  if month = 2 then
    if year % 4 = 0 ∧ (year % 100 ≠ 0 ∨ year % 400 = 0) then 29 else 28
  else if [4, 6, 9, 11].contains month then 30
  else 31

/-- The text after the date at the front. -/
def date? (text : List Char) : Option (List Char) := do
  let (year, text) ← fixedNat? 4 text
  let text ← oneOf? ['-'] text
  let (month, text) ← fixedNat? 2 text
  let text ← oneOf? ['-'] text
  let (day, text) ← fixedNat? 2 text
  if 1 ≤ month ∧ month ≤ 12 ∧ 1 ≤ day ∧ day ≤ daysInMonth year month then some text else none

/-- The text after the hours and minutes at the front. -/
def hourMinute? (text : List Char) : Option (List Char) := do
  let (hour, text) ← fixedNat? 2 text
  let text ← oneOf? [':'] text
  let (minute, text) ← fixedNat? 2 text
  if hour ≤ 23 ∧ minute ≤ 59 then some text else none

/-- The text after the time at the front. -/
def time? (text : List Char) : Option (List Char) := do
  let text ← hourMinute? text
  let text ← oneOf? [':'] text
  let (second, text) ← fixedNat? 2 text
  if 60 < second then none
  else
    match text with
    | '.' :: fraction =>
      let digits := fraction.takeWhile (isDigitOf 10)
      if digits.isEmpty then none else some (fraction.drop digits.length)
    | _ => some text

/-- Whether a text is nothing or an offset. -/
def isOffset (text : List Char) : Bool :=
  text.isEmpty || text = ['Z'] || text = ['z'] ||
    ((oneOf? ['+', '-'] text).bind hourMinute?).any List.isEmpty

/-- Whether a whole text is a date-time. -/
def isDateTime (text : List Char) : Bool :=
  match date? text with
  | none => (time? text).any List.isEmpty
  | some [] => true
  | some rest => ((oneOf? ['T', 't', ' '] rest).bind time?).any isOffset

/-- The canonical spelling of a date-time: with capital letters, without zeros at the end of a
fraction, of which nine digits count, and with a positive offset of zero. -/
def canonicalDateTime (text : List Char) : List Char :=
  let capitals := text.map fun c => if c = ' ' then 'T' else c.toUpper
  let short :=
    match Text.cut '.' capitals with
    | none => capitals
    | some (whole, rest) =>
      let digits := rest.takeWhile (isDigitOf 10)
      let fraction := Text.dropEndWhile (· = '0') (digits.take 9)
      whole ++ (if fraction.isEmpty then [] else '.' :: fraction) ++ rest.drop digits.length
  if "-00:00".toList.isSuffixOf short then
    short.take (short.length - 6) ++ "+00:00".toList
  else short

/-- The date-time that a whole text writes. -/
def dateTime? (text : List Char) : Option Value :=
  if isDateTime text then some (.datetime (String.ofList (canonicalDateTime text))) else none

/-- A character of a value that is not a string, an array or a table. -/
def isScalarChar (c : Char) : Bool := c.isAlphanum || "_+-.:".toList.contains c

/-- Take the longest front that can be a scalar. A date takes in a space that a digit follows. -/
def scalarText (text : List Char) : List Char × List Char :=
  let word := text.takeWhile isScalarChar
  let rest := text.drop word.length
  match date? word, rest with
  | some [], ' ' :: digit :: _ =>
    if isDigitOf 10 digit then
      let time := (rest.drop 1).takeWhile isScalarChar
      (word ++ ' ' :: time, rest.drop (time.length + 1))
    else (word, rest)
  | _, _ => (word, rest)

/-- The value that a whole text writes. -/
def scalar? (text : List Char) : Option Value :=
  if text = "true".toList then some (.boolean true)
  else if text = "false".toList then some (.boolean false)
  else if isFloat text then some (.float (String.ofList text))
  else (dateTime? text).or ((integer? text).map .integer)

end KotlinLint.Toml
