import KotlinLint.Toml.DateTime
import KotlinLint.Toml.Draft
import KotlinLint.Toml.Quoted

/-!
# TOML documents

A document is read line by line: a header opens a table, a key with a value adds to the table
that is open. Arrays may go over several lines and inline tables may not. Arrays and inline
tables may be nested up to a depth, and a dotted key has less than a number of parts.
-/

namespace KotlinLint.Toml

/-- How many arrays and inline tables may stand inside each other. -/
def maxDepth : Nat := 79

/-- The most parts of a dotted key. -/
def maxKeyParts : Nat := 79

/-- A character of a key without quotes. -/
def isBareKeyChar (c : Char) : Bool := c.isAlphanum || c = '_' || c = '-'

/-- Read one part of a key. -/
def keyPart? (text : List Char) : Option (String × List Char) :=
  let bare := text.takeWhile isBareKeyChar
  if bare.isEmpty then shortString? text else some (String.ofList bare, text.drop bare.length)

/-- Read the parts of a key, with blanks around them, up to a number of parts. -/
def keyParts? : Nat → Reader (List String)
  | 0, _ => none
  | fuel + 1, text => do
    let (part, rest) ← keyPart? (skipSpaces text)
    match skipSpaces rest with
    | '.' :: rest => (keyParts? fuel rest).map fun (parts, after) => (part :: parts, after)
    | rest => some ([part], rest)

/-- A key: its parts before the last one, and the last one. -/
structure Key where
  parts : List String
  last : String

/-- Read a key with the blanks around it. -/
def key? (text : List Char) : Option (Key × List Char) := do
  let (parts, rest) ← keyParts? maxKeyParts text
  let last ← parts.getLast?
  return (⟨parts.dropLast, last⟩, rest)

/-- Read a key with its value; blanks may stand after the value. -/
def keyValue? (value? : Reader Value) : Reader (Key × Value) := fun text => do
  let (key, rest) ← key? text
  let rest ← match rest with
    | '=' :: rest => some rest
    | _ => none
  let (value, rest) ← value? (skipSpaces rest)
  return ((key, value), skipSpaces rest)

/-- Read the items of an array and the bracket that closes it. -/
def arrayItems? (value? : Reader Value) (text : List Char) : Option (List Value × List Char) := do
  let start ← skipFiller false text
  match start with
  | ']' :: rest => return ([], rest)
  | _ =>
    let (value, rest) ← value? start
    let rest ← skipFiller false rest
    let (more, rest) ← separator? ']' rest
    if rest.length < text.length then
      if more then
        (arrayItems? value? rest).map fun (values, after) => (value :: values, after)
      else return ([value], rest)
    else none
termination_by text.length

/-- Read the entries of an inline table that is not empty, and the brace that closes it. -/
def inlineEntries? (value? : Reader Value) (text : List Char) :
    Option (List (Key × Value) × List Char) := do
  let (entry, rest) ← keyValue? value? text
  let (more, rest) ← separator? '\x7d' rest
  if rest.length < text.length then
    if more then
      (inlineEntries? value? rest).map fun (entries, after) => (entry :: entries, after)
    else return ([entry], rest)
  else none
termination_by text.length

/-- Read what follows the opening brace of an inline table. -/
def inlineTable? (value? : Reader Value) (text : List Char) : Option (Value × List Char) := do
  let (entries, rest) ←
    match skipSpaces text with
    | '\x7d' :: rest => some ([], rest)
    | start => inlineEntries? value? start
  let table ← entries.foldlM (fun (table : Draft.Entries) (entry : Key × Value) =>
    table.insert entry.1.parts entry.1.last entry.2) []
  return (.table (Draft.toTable table), rest)

/-- Read a value in which arrays and inline tables are nested up to a depth. -/
def value? : Nat → Reader Value
  | _, '"' :: rest => (quoted? ('"' :: rest)).map fun (text, after) => (.string text, after)
  | _, '\x27' :: rest => (quoted? ('\x27' :: rest)).map fun (text, after) => (.string text, after)
  | depth, '[' :: rest =>
    match depth with
    | 0 => none
    | depth + 1 => (arrayItems? (value? depth) rest).map fun (items, after) => (.array items, after)
  | depth, '\x7b' :: rest =>
    match depth with
    | 0 => none
    | depth + 1 => inlineTable? (value? depth) rest
  | _, text =>
    let (word, rest) := scalarText text
    (scalar? word).map (·, rest)

/-- A line of a document. -/
inductive Line where
  | blank
  | entry (key : Key) (value : Value)
  | table (key : Key)
  | nextTable (key : Key)

/-- Read a key and the brackets that close a header. -/
def header? (closing : List Char) : Reader Key := fun text => do
  let (key, rest) ← key? text
  if closing.isPrefixOf rest then some (key, rest.drop closing.length) else none

/-- Read a line with its end. -/
def line? (text : List Char) : Option (Line × List Char) := do
  let (line, rest) ←
    match skipSpaces text with
    | '[' :: '[' :: rest => (header? [']', ']'] rest).map fun (key, after) =>
        (Line.nextTable key, after)
    | '[' :: rest => (header? [']'] rest).map fun (key, after) => (Line.table key, after)
    | start =>
      if start.isEmpty || start.head? = some '#' || (newline? start).isSome then
        some (.blank, start)
      else (keyValue? (value? maxDepth) start).map fun ((key, value), after) =>
        (Line.entry key value, after)
  return (line, ← endLine? rest)

/-- Read all lines. -/
def lines? (text : List Char) : Option (List Line) :=
  if text.isEmpty then some []
  else do
    let (line, rest) ← line? text
    if rest.length < text.length then
      let more ← lines? rest
      return line :: more
    else none
termination_by text.length

/-- A document in the making, with the path of the table that is open. -/
structure Progress where
  entries : Draft.Entries := []
  openPath : List String := []

/-- Add a line to a document. -/
def Progress.add? (progress : Progress) : Line → Option Progress
  | .blank => some progress
  | .entry key value =>
    (progress.entries.insertBelow progress.openPath key.parts key.last value).map
      (⟨·, progress.openPath⟩)
  | .table key =>
    (progress.entries.openTable key.parts key.last).map (⟨·, key.parts ++ [key.last]⟩)
  | .nextTable key =>
    (progress.entries.openNext key.parts key.last).map (⟨·, key.parts ++ [key.last]⟩)

/-- Read a document; a byte order mark may stand at its front. -/
def parse? (text : String) : Option Table := do
  let chars :=
    match text.toList with
    | '\ufeff' :: rest => rest
    | chars => chars
  let lines ← lines? chars
  let progress ← lines.foldlM Progress.add? {}
  return Draft.toTable progress.entries

end KotlinLint.Toml
