import KotlinLint.Proofs.Identifier
import KotlinLint.TypeName

/-!
# Written supertypes

How an entry of a supertype list is written: identifiers with dots between them, each of which may
have type arguments, and then, as far as they are there, a question mark, constructor arguments and
a delegation (`SupertypeEntry.write`). Blanks may stand around the dots, and some stand around the
word `by` of a delegation. Without its type arguments a type is a dotted name
(`SupertypeEntry.Qualified.name`).
-/

namespace KotlinLint

open Text

namespace SupertypeEntry

/-- An identifier of a type with its type arguments. -/
structure Segment extends Word where
  /-- What stands between the angle brackets of the type arguments. -/
  typeArguments : Option (List Char)

/-- An identifier with its type arguments after a dot. -/
structure Joint where
  /-- The blanks before the dot. -/
  before : List Char
  /-- The blanks after the dot. -/
  after : List Char
  segment : Segment

/-- The identifier after the dot, without its type arguments. -/
def Joint.link (joint : Joint) : Text.Link := ⟨joint.before, joint.after, joint.segment.toWord⟩

/-- A delegation to an object. -/
structure Delegation where
  /-- The blanks before the keyword. -/
  before : List Char
  /-- The blanks after it. -/
  after : List Char
  expression : List Char

/-- The word that begins a delegation. -/
def keyword : List Char := ['b', 'y']

/-- A type by its identifiers. -/
structure Qualified where
  first : Segment
  rest : List Joint

end SupertypeEntry

/-- An entry of a supertype list by its parts. -/
structure SupertypeEntry where
  type : SupertypeEntry.Qualified
  /-- Whether a question mark follows the type. -/
  nullable : Bool
  /-- What stands between the parentheses of the constructor arguments. -/
  arguments : Option (List Char)
  delegation : Option SupertypeEntry.Delegation

namespace SupertypeEntry

/-- How a part that stands between two brackets is written when it is there. -/
def enclose (opening closing : Char) : Option (List Char) → List Char
  | none => []
  | some inner => opening :: inner ++ [closing]

/-- How an identifier is written with its type arguments. -/
def Segment.write (segment : Segment) : List Char :=
  segment.toWord.write ++ enclose '<' '>' segment.typeArguments

/-- How a dot and the identifier after it are written. -/
def Joint.write (joint : Joint) : List Char :=
  joint.before ++ '.' :: (joint.after ++ joint.segment.write)

/-- How a delegation is written. -/
def Delegation.write (delegation : Delegation) : List Char :=
  delegation.before ++ keyword ++ delegation.after ++ delegation.expression

namespace Qualified

/-- The name of a type, which is the type without its type arguments. -/
def name (type : Qualified) : DottedName := ⟨type.first.toWord, type.rest.map Joint.link⟩

/-- The last identifier of a type. -/
def last (type : Qualified) : Segment := (type.rest.getLast?.map Joint.segment).getD type.first

/-- The identifiers of a type before the last one. -/
def qualifiers (type : Qualified) : List Segment :=
  (type.first :: type.rest.map Joint.segment).dropLast

/-- How a type is written. -/
def write (type : Qualified) : List Char := type.first.write ++ type.rest.flatMap Joint.write

end Qualified

/-- How an entry is written after its type. -/
def writeTail (entry : SupertypeEntry) : List Char :=
  (if entry.nullable then ['?'] else []) ++ enclose '(' ')' entry.arguments ++
    (entry.delegation.map Delegation.write).getD []

/-- How an entry is written. -/
def write (entry : SupertypeEntry) : List Char := entry.type.write ++ entry.writeTail

/-- Whether the parts of an entry are what they stand for. -/
structure IsWellFormed (entry : SupertypeEntry) : Prop where
  type : entry.type.name.IsOfIdentifiers
  /-- Some blanks stand on either side of the keyword. -/
  delegation : ∀ delegation, entry.delegation = some delegation →
    (IsGap delegation.before ∧ delegation.before ≠ []) ∧
      IsGap delegation.after ∧ delegation.after ≠ []

/-- The delegation of an entry that has nothing else after its last identifier. -/
def directDelegation? (entry : SupertypeEntry) : Option Delegation :=
  if entry.type.last.typeArguments.isNone ∧ entry.nullable = false ∧ entry.arguments.isNone then
    entry.delegation
  else none

/-- The blanks that follow the last identifier of an entry when nothing else does. -/
def gapAfterType (entry : SupertypeEntry) : List Char :=
  (entry.directDelegation?.map Delegation.before).getD []

end SupertypeEntry

end KotlinLint
