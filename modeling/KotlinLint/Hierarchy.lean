import KotlinLint.File

/-!
# Supertypes within a file

Of a supertype only the name is known, unless a class of that name is declared in the same file;
then its supertypes are supertypes as well. A class inherits a name ending when some name met in
this way has it. Classes may inherit each other in a circle, so every name is followed once.
-/

namespace KotlinLint

/-- The classes by which the supertypes of a file are followed. -/
structure Hierarchy where
  /-- The classes in the order in which they are found; the first of a name stands for it. -/
  classes : List ClassDeclaration

namespace Hierarchy

/-- The hierarchy of all classes of a file. -/
def ofFile (file : File) : Hierarchy := ⟨file.classes⟩

/-- The class that stands for a name. -/
def get? (hierarchy : Hierarchy) (name : String) : Option ClassDeclaration :=
  hierarchy.classes.find? (·.name = name)

/-- Leave out the classes of a name. -/
def erase (hierarchy : Hierarchy) (name : String) : Hierarchy :=
  ⟨hierarchy.classes.filter (·.name ≠ name)⟩

/-- Leaving out a name that a class stands for leaves fewer classes. -/
theorem erase_length_lt {hierarchy : Hierarchy} {name : String} {found : ClassDeclaration}
    (present : hierarchy.get? name = some found) :
    (hierarchy.erase name).classes.length < hierarchy.classes.length := by
  have named : found.name = name := by simpa using List.find?_some present
  have member := List.mem_of_find?_eq_some present
  apply List.length_filter_lt_length_iff_exists.mpr
  exact ⟨found, member, by simp [named]⟩

/-- Whether a name with the ending is among these names or is reached from them. A name that has
been followed is left out of the hierarchy. -/
def reaches (ending : String) (hierarchy : Hierarchy) : List String → Bool
  | [] => false
  | name :: pending =>
    if Text.endsWith name ending then true
    else
      match _present : hierarchy.get? name with
      | none => reaches ending hierarchy pending
      | some parent => reaches ending (hierarchy.erase name) (parent.supertypeNames ++ pending)
termination_by pending => (hierarchy.classes.length, pending.length)
decreasing_by
  · exact Prod.Lex.right _ (by simp)
  · exact Prod.Lex.left _ _ (erase_length_lt _present)

/-- Whether a class inherits from a type whose name has the ending, directly or through classes
of the hierarchy. -/
def inheritsEnding (hierarchy : Hierarchy) (declaration : ClassDeclaration) (ending : String) :
    Bool :=
  reaches ending hierarchy declaration.supertypeNames

end Hierarchy

end KotlinLint
