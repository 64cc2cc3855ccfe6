/-!
# JSON values

A JSON value, with what decoding needs to know about its numbers: whether a number is written
as an integer. Decoders answer none for a value that they refuse.
-/

namespace KotlinLint

/-- A JSON value. -/
inductive Json where
  | null
  | boolean (value : Bool)
  /-- A number written as an integer. -/
  | integer (value : Int)
  /-- Any other number, as an integer divided by a power of ten. -/
  | decimal (mantissa : Int) (scale : Nat)
  | string (value : String)
  | array (items : List Json)
  | object (fields : List (String × Json))

namespace Json

/-- A natural number as a JSON integer. -/
def ofNat (n : Nat) : Json := integer n

/-- The fields of a record, by name. A record is an object, whose fields of other names do not
matter, or the array of its fields in order, where the last ones may be missing. -/
def record? (names : List String) : Json → Option (String → Option Json)
  | object fields => some fun name => fields.lookup name
  | array items =>
    if items.length ≤ names.length then some fun name => (names.zip items).lookup name else none
  | _ => none

/-- The text of a JSON string. -/
def string? : Json → Option String
  | string value => some value
  | _ => none

/-- A natural number below a bound. -/
def natBelow? (bound : Nat) : Json → Option Nat
  | integer (.ofNat value) => if value < bound then some value else none
  | _ => none

/-- A string that may be missing or null. -/
def optionalString? : Option Json → Option (Option String)
  | none => some none
  | some null => some none
  | some (string value) => some (some value)
  | some _ => none

/-- A natural number below the bound is read from its integer. -/
theorem natBelow?_ofNat {bound n : Nat} (below : n < bound) :
    natBelow? bound (ofNat n) = some n :=
  if_pos below

end Json

end KotlinLint
