import KotlinLint.Text.Cut
import KotlinLint.Toml.Quoted
import KotlinLint.Toml.Value

/-!
# TOML numbers

Digits may be grouped by single underscores between them. Integers are decimal, with an
optional sign and no leading zeros, or have a base given by `0x`, `0o` or `0b`, and they have to
fit 64 bits with a sign. Floats have a fraction, an exponent or both, or are infinite or not a
number; a float too large for a double is refused, but a negative one of that size is not.
-/

namespace KotlinLint.Toml

/-- The digits of a number, without the underscores between them. -/
def grouped? (isDigit : Char → Bool) (text : List Char) : Option (List Char) :=
  let groups := Text.splitOn '_' text
  if groups.all fun group => !group.isEmpty && group.all isDigit then some groups.flatten else none

/-- The number that digits write in a base. -/
def ofDigits (base : Nat) (digits : List Char) : Nat :=
  digits.foldl (fun value digit => base * value + (hexValue? digit).getD 0) 0

/-- A digit of a base up to sixteen. -/
def isDigitOf (base : Nat) (c : Char) : Bool := (hexValue? c).any (· < base)

/-- The sign at the front of a number, as whether it is negative, and the rest. -/
def splitSign : List Char → Bool × List Char
  | '-' :: rest => (true, rest)
  | '+' :: rest => (false, rest)
  | text => (false, text)

/-- The digits of a decimal integer without its sign. -/
def wholeDigits? (text : List Char) : Option (List Char) := do
  let digits ← grouped? (isDigitOf 10) text
  if digits.head? = some '0' ∧ digits.length ≠ 1 then none else some digits

/-- The bound of integers of 64 bits with a sign. -/
def integerBound : Int := Nat.pow 2 63

/-- The integer, if it fits 64 bits with a sign. -/
def fitting? (value : Int) : Option Int :=
  if -integerBound ≤ value ∧ value < integerBound then some value else none

/-- Read a whole text as an integer. -/
def integer? (text : List Char) : Option Int :=
  let based (base : Nat) (digits : List Char) : Option Int := do
    let digits ← grouped? (isDigitOf base) digits
    fitting? (ofDigits base digits)
  match text with
  | '0' :: 'x' :: digits => based 16 digits
  | '0' :: 'o' :: digits => based 8 digits
  | '0' :: 'b' :: digits => based 2 digits
  | _ => do
    let (negative, whole) := splitSign text
    let digits ← wholeDigits? whole
    let magnitude : Int := ofDigits 10 digits
    fitting? (if negative then -magnitude else magnitude)

/-- Whether digits times a power of ten round to a double that is infinite: from the middle
between the largest double and the next power of two on. The number of digits decides alone
where it can. -/
def overflows (digits : List Char) (exponent : Int) : Bool :=
  let significant := digits.dropWhile (· = '0')
  let size : Int := significant.length + exponent
  let middle := Nat.pow 2 1024 - Nat.pow 2 970
  if significant.isEmpty || size ≤ 308 then false
  else if 310 ≤ size then true
  else
    let value := ofDigits 10 significant
    if 0 ≤ exponent then middle ≤ value * Nat.pow 10 exponent.toNat
    else middle * Nat.pow 10 (-exponent).toNat ≤ value

/-- The exponent after its letter. -/
def exponent? (text : List Char) : Option Int := do
  let (negative, digits) := splitSign text
  let digits ← grouped? (isDigitOf 10) digits
  let magnitude : Int := ofDigits 10 digits
  return if negative then -magnitude else magnitude

/-- The digits before and after the point of a float, and its exponent, when it has a fraction
or an exponent. -/
def floatParts? (text : List Char) : Option (List Char × List Char × Int) := do
  let mantissa := text.takeWhile fun c => c ≠ 'e' && c ≠ 'E'
  let power := text.drop mantissa.length
  let exponent ← if power.isEmpty then some 0 else exponent? (power.drop 1)
  match Text.cut '.' mantissa with
  | some (whole, fraction) => do
    let whole ← wholeDigits? whole
    let fraction ← grouped? (isDigitOf 10) fraction
    return (whole, fraction, exponent)
  | none => do
    let whole ← wholeDigits? mantissa
    if power.isEmpty then none else some (whole, [], exponent)

/-- Whether a whole text is a float. -/
def isFloat (text : List Char) : Bool :=
  let (negative, body) := splitSign text
  body = "inf".toList || body = "nan".toList ||
    (floatParts? body).any fun (whole, fraction, exponent) =>
      negative || !overflows (whole ++ fraction) (exponent - fraction.length)

end KotlinLint.Toml
