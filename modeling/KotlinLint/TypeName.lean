import KotlinLint.Text.Cut

/-!
# Supertype names

Of an entry in a supertype list only the qualified name is kept: constructor arguments, type
arguments, a question mark and a delegation are cut off with all that follows them.
-/

namespace KotlinLint

/-- The qualified name of a type. -/
structure TypeName where
  /-- The segments of the name. -/
  segments : List String
deriving DecidableEq

open Text

namespace TypeName

/-- Where the name of a supertype entry ends at the latest. -/
def endsName (c : Char) : Bool := c = '(' || c = '<' || c = '?'

/-- The part of a supertype entry that holds its name. -/
def nameText (text : List Char) : List Char :=
  (before " by ".toList text).takeWhile fun c => !endsName c

/-- Read the characters of a supertype entry; no segment may be empty. -/
def readChars (text : List Char) : Option TypeName :=
  let segments := (splitOn '.' (nameText text)).map fun segment => unquote (trim segment)
  if segments.any List.isEmpty then none else some ⟨segments.map String.ofList⟩

/-- Read a supertype entry. -/
def read (text : String) : Option TypeName := readChars text.toList

/-- The last segment. -/
def simpleName (name : TypeName) : String := name.segments.getLast?.getD ""

end TypeName

end KotlinLint
