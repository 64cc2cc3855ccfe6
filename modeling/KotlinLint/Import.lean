import KotlinLint.Text.Cut

/-!
# Import directives

An import directive names a path of segments, and may rename what it imports or import all
that the path holds. Blanks around the dots, semicolons after the directive and backquotes
around a segment do not matter, and the keyword may be left out.
-/

namespace KotlinLint

/-- An import directive. -/
structure Import where
  /-- The segments of the imported path. -/
  path : List String
  /-- The new name, in `import a.B as C`. -/
  rename : Option String
  /-- Whether all of the path's members are imported, as in `import a.b.*`. -/
  wildcard : Bool
deriving DecidableEq

open Text

namespace Import

/-- The directive that imports a path under its own name. -/
def plain (path : List String) : Import := ⟨path, none, false⟩

/-- Leave out a leading keyword. -/
def dropKeyword : List (List Char) → List (List Char)
  | [] => []
  | word :: rest => if word = "import".toList then rest else word :: rest

/-- The words of the path and the new name, which is the word after `as` and has to be there
once `as` is. -/
def splitRename : List (List Char) → Option (List (List Char) × Option (List Char))
  | [] => some ([], none)
  | word :: rest =>
    if word = "as".toList then
      match rest with
      | [] => none
      | name :: _ => some ([], some name)
    else (splitRename rest).map fun (path, name) => (word :: path, name)

/-- The path without an ending `.*`, and whether it had one. -/
def splitWildcard (path : List Char) : List Char × Bool :=
  if ['.', '*'].isSuffixOf path then (path.take (path.length - 2), true) else (path, false)

/-- The segments of a path, without the backquotes around them; none may be empty. -/
def readSegments (path : List Char) : Option (List String) :=
  let segments := (splitOn '.' path).map unquote
  if segments.any List.isEmpty then none else some (segments.map String.ofList)

/-- Read the characters of an import directive. -/
def readChars (text : List Char) : Option Import :=
  match splitRename (dropKeyword (words (dropEndWhile (· == ';') (trim text)))) with
  | none => none
  | some (parts, newName) =>
    let (path, wildcard) := splitWildcard parts.flatten
    (readSegments path).map fun segments => ⟨segments, newName.map String.ofList, wildcard⟩

/-- Read a text that is an import directive. -/
def read (text : String) : Option Import := readChars text.toList

/-- The path with dots between its segments. -/
def qualifiedName (directive : Import) : String := ".".intercalate directive.path

end Import

end KotlinLint
