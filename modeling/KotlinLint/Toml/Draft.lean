import KotlinLint.Toml.Value

/-!
# TOML documents in the making

While a document is read, its tables remember how they came about, since this decides what may
still be added to them. A table that was only needed on the way to another one may get a header
once; a table made by a dotted key may only be added to by dotted keys, and through the headers
of tables below it; a table with a header is added to by the lines after the header. Of an
array of tables only the last table can change.
-/

namespace KotlinLint.Toml

/-- How a table came about. -/
inductive Origin where
  /-- By a header of its own. -/
  | header
  /-- On the way to the table of a header. -/
  | implied
  /-- By a dotted key. -/
  | dotted
deriving DecidableEq

/-- An entry of a document in the making. -/
inductive Draft where
  /-- A value, to which nothing can be added. -/
  | value (written : Value)
  | table (origin : Origin) (entries : List (String × Draft))
  /-- An array of tables, the last one apart. -/
  | tables (earlier : List Value) (last : List (String × Draft))

namespace Draft

/-- The entries of a table in the making. -/
abbrev Entries := List (String × Draft)

mutual

/-- What an entry is once nothing more is added. -/
def toValue : Draft → Value
  | value written => written
  | table _ entries => .table (toTable entries)
  | tables earlier last => .array (earlier ++ [.table (toTable last)])

/-- What a table is once nothing more is added. -/
def toTable : List (String × Draft) → Table
  | [] => []
  | (key, draft) :: rest => (key, draft.toValue) :: toTable rest

end

namespace Entries

/-- Put another draft at a key that is there. -/
def set (entries : Entries) (key : String) (draft : Draft) : Entries :=
  entries.map fun entry => if entry.1 = key then (key, draft) else entry

/-- Leave out the entry of a key. -/
def erase (entries : Entries) (key : String) : Entries := entries.filter (·.1 ≠ key)

/-- Change the table at a path, given how it came about. Tables missing on the way are made as
the origin of the path says; a dotted path does not go through tables with a header. -/
def modifyAt (path : Origin) (change : Origin → Entries → Option Entries) (origin : Origin)
    (entries : Entries) : List String → Option Entries
  | [] => change origin entries
  | key :: keys =>
    match entries.lookup key with
    | none => (modifyAt path change path [] keys).map fun inner =>
        entries ++ [(key, .table path inner)]
    | some (.value _) => none
    | some (.table origin inner) =>
      if path = .dotted ∧ origin = .header then none
      else (modifyAt path change origin inner keys).map fun inner =>
        entries.set key (.table origin inner)
    | some (.tables earlier last) =>
      (modifyAt path change .header last keys).map fun inner =>
        entries.set key (.tables earlier inner)

/-- Add a value under a new key. -/
def insertNew (entries : Entries) (key : String) (written : Value) : Option Entries :=
  if (entries.lookup key).isSome then none else some (entries ++ [(key, .value written)])

/-- Add a value under a dotted key, given by its first parts and its last one. The table that
the first parts lead to has to be one that dotted keys made. -/
def insert (entries : Entries) (parts : List String) (last : String) (written : Value) :
    Option Entries :=
  if parts.isEmpty then entries.insertNew last written
  else
    modifyAt .dotted (fun origin inner =>
      if origin = .dotted then inner.insertNew last written else none) .header entries parts

/-- Add a value under a dotted key to the table that a header has opened. -/
def insertBelow (entries : Entries) (header parts : List String) (last : String)
    (written : Value) : Option Entries :=
  modifyAt .implied (fun _ inner => inner.insert parts last written) .header entries header

/-- Open the table of a header, given by its first parts and its last one. A table that was on
the way to another one becomes the last entry. -/
def openTable (entries : Entries) (parts : List String) (last : String) : Option Entries :=
  let change (inner : Entries) : Option Entries :=
    match inner.lookup last with
    | none => some (inner ++ [(last, .table .header [])])
    | some (.table .implied found) => some (inner.erase last ++ [(last, .table .header found)])
    | some _ => none
  modifyAt .implied (fun _ inner => change inner) .header entries parts

/-- Open the next table of an array of tables. -/
def openNext (entries : Entries) (parts : List String) (last : String) : Option Entries :=
  let change (inner : Entries) : Option Entries :=
    match inner.lookup last with
    | none => some (inner ++ [(last, .tables [] [])])
    | some (.tables earlier open_) =>
      some (inner.set last (.tables (earlier ++ [.table (toTable open_)]) []))
    | some _ => none
  modifyAt .implied (fun _ inner => change inner) .header entries parts

end Entries

end Draft

end KotlinLint.Toml
