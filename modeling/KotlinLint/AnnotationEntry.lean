import KotlinLint.Span
import KotlinLint.Text.Brackets
import KotlinLint.Text.Cut
import KotlinLint.Text.Quoted

/-!
# Annotations

An annotation is written `@site:name(argument, …)`. It is what its parts say and not how they
are spelled: two spellings with other blanks, or with other escapes in a string, are the same
annotation. `AnnotationEntry.read` accepts a text only when all of it is one annotation.
-/

namespace KotlinLint

/-- The value of an annotation argument. -/
inductive ArgumentValue where
  /-- A plain string literal, by the text it denotes. -/
  | text (content : String)
  /-- Any other expression, by its characters that are not blank. -/
  | expression (source : String)
deriving DecidableEq

/-- An annotation argument, with its name when it has one. -/
structure Argument where
  name : Option String
  value : ArgumentValue
deriving DecidableEq

/-- An annotation such as `@Composable` or `@field:SerialName("kind")`. -/
structure AnnotationEntry where
  /-- What the annotation applies to, when it says so: `field` in `@field:SerialName("kind")`. -/
  useSite : Option String
  /-- The name as written, with its qualifier. -/
  name : String
  /-- The arguments in order. -/
  arguments : List Argument
deriving DecidableEq

open Text

namespace ArgumentValue

/-- Read a trimmed argument value. -/
def read (text : List Char) : ArgumentValue :=
  match Quoted.read text with
  | some content => .text (String.ofList content)
  | none => .expression (String.ofList (squeeze text))

end ArgumentValue

namespace Argument

/-- A character of an argument name. -/
def isNameChar (c : Char) : Bool := isAlphanumeric c || c = '_'

/-- The name and the value of `name = value`. The equals sign is the first one; it names an
argument only after a plain name and when no second equals sign follows it. -/
def splitName (text : List Char) : Option (List Char × List Char) :=
  match cut '=' text with
  | none => none
  | some (before, after) =>
    let name := trim before
    if before.contains '"' || after.head? = some '=' || name.isEmpty || !name.all isNameChar then
      none
    else some (name, trim after)

/-- Read one trimmed argument. -/
def read (text : List Char) : Argument :=
  match splitName text with
  | some (name, value) => ⟨some (String.ofList name), ArgumentValue.read value⟩
  | none => ⟨none, ArgumentValue.read text⟩

/-- Read the text between the parentheses; blank arguments are left out. -/
def readAll (text : List Char) : List Argument :=
  (((splitTopLevel text).map trim).filter fun piece => !piece.isEmpty).map read

end Argument

namespace AnnotationEntry

/-- An annotation without use site and arguments. -/
def marker (name : String) : AnnotationEntry := ⟨none, name, []⟩

/-- A character of an annotation name. -/
def isNameChar (c : Char) : Bool := isAlphanumeric c || c = '_' || c = '.' || c = backquote

/-- The text before the argument list and the text between its parentheses, which are the first
opening one and the last closing one. Only blanks may follow the list. -/
def splitArguments (entry : List Char) : Option (List Char × List Char) :=
  match cut '(' entry with
  | none => some (entry, [])
  | some (head, rest) =>
    match cutLast ')' rest with
    | none => none
    | some (arguments, tail) => if tail.all isBlank then some (head, arguments) else none

/-- The use site and the name of an annotation head without blanks. -/
def splitUseSite (head : List Char) : Option (List Char) × List Char :=
  match cut ':' head with
  | none => (none, head)
  | some (site, name) => (some site, name)

/-- Read the characters of an annotation. -/
def readChars (text : List Char) : Option AnnotationEntry :=
  match trim text with
  | '@' :: entry =>
    match splitArguments entry with
    | none => none
    | some (head, arguments) =>
      let (useSite, name) := splitUseSite (squeeze head)
      if name.isEmpty || !name.all isNameChar then none
      else some ⟨useSite.map String.ofList, String.ofList name, Argument.readAll arguments⟩
  | _ => none

/-- Read a text that is one annotation. -/
def read (text : String) : Option AnnotationEntry := readChars text.toList

/-- The text of a string given as the only argument. -/
def stringArgument (entry : AnnotationEntry) : Option String :=
  match entry.arguments with
  | [⟨_, .text content⟩] => some content
  | _ => none

/-- Whether an annotation equal to this one is in a list. -/
def isAmong (entry : AnnotationEntry) (annotations : List (Placed AnnotationEntry)) : Bool :=
  annotations.any (·.value = entry)

/-- Whether the annotation that a text writes is in a list. -/
def isWrittenAmong (text : String) (annotations : List (Placed AnnotationEntry)) : Bool :=
  (read text).any (·.isAmong annotations)

/-- The first annotation of a name that has no use site. -/
def findNamed? (annotations : List (Placed AnnotationEntry)) (name : String) :
    Option (Placed AnnotationEntry) :=
  annotations.find? fun entry => entry.value.name = name && entry.value.useSite.isNone

end AnnotationEntry

end KotlinLint
