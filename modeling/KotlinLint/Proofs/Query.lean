import KotlinLint.File

/-!
# What files import and what declarations carry and name

An import that makes a name known as it is has the path of the name, no new name and no
wildcard (`File.Imports`). A declaration carries an annotation when one of its own is what the
text of the annotation reads as (`Carries`). A class names a supertype by the last segment of an
entry among its supertypes (`ClassDeclaration.HasSupertype`), and names have endings as lists of
characters have.
-/

namespace KotlinLint

/-- Two searches look for the same when each single thing is found by both or by neither. -/
theorem eq_of_any_eq {α : Type} [DecidableEq α] {sought other : Option α}
    (alike : ∀ entry, sought.any (entry = ·) = other.any (entry = ·)) : sought = other := by
  have finds : ∀ (option : Option α) (entry : α),
      option.any (entry = ·) = true ↔ option = some entry := by
    intro option entry
    cases option <;> simp [eq_comm]
  apply Option.ext
  intro entry
  rw [← finds, alike, finds]

/-- Whether a file imports what a path names under its own name. -/
def File.Imports (file : File) (path : List String) : Prop :=
  ∃ directive ∈ file.imports, directive.value = { path := path, rename := none, wildcard := false }

/-- The search for a plain import compares path, new name and wildcard. -/
theorem File.hasImport_plain_iff (file : File) (path : List String) :
    file.hasImport (.plain path) = true ↔ file.Imports path := by
  rw [File.hasImport, List.any_eq_true]
  simp only [decide_eq_true_eq]
  rfl

/-- Whether one of some annotations is what a text writes. -/
def Carries (annotations : List (Placed AnnotationEntry)) (text : String) : Prop :=
  ∃ mark ∈ annotations, AnnotationEntry.read text = some mark.value

/-- The search for an annotation compares with what its text writes. -/
theorem carries_iff {text : String} {entry : AnnotationEntry}
    (written : AnnotationEntry.read text = some entry)
    (annotations : List (Placed AnnotationEntry)) :
    entry.isAmong annotations = true ↔ Carries annotations text := by
  rw [AnnotationEntry.isAmong, List.any_eq_true, Carries, written]
  simp only [decide_eq_true_eq, Option.some.injEq]
  constructor
  · intro found
    obtain ⟨mark, listed, same⟩ := found
    exact ⟨mark, listed, same.symm⟩
  · intro carried
    obtain ⟨mark, listed, same⟩ := carried
    exact ⟨mark, listed, same.symm⟩

/-- One string ends with another when its characters end with those of the other. -/
theorem Text.endsWith_iff (text ending : String) :
    endsWith text ending = true ↔ ending.toList <:+ text.toList :=
  List.isSuffixOf_iff_suffix

/-- Whether a name is the last segment of a direct supertype of a class. -/
def ClassDeclaration.HasSupertype (declaration : ClassDeclaration) (name : String) : Prop :=
  ∃ entry ∈ declaration.supertypes, entry.value.segments.getLastD "" = name

/-- The simple names of the supertypes of a class are their last segments. -/
theorem ClassDeclaration.mem_supertypeNames_iff (declaration : ClassDeclaration) (name : String) :
    name ∈ declaration.supertypeNames ↔ declaration.HasSupertype name := by
  rw [supertypeNames, List.mem_map, HasSupertype]
  simp only [TypeName.simpleName, List.getLastD_eq_getLast?]

/-- The search for a direct supertype compares with the last segments. -/
theorem ClassDeclaration.isDirectSubtypeOf_iff (declaration : ClassDeclaration) (name : String) :
    declaration.isDirectSubtypeOf name = true ↔ declaration.HasSupertype name := by
  rw [isDirectSubtypeOf, List.contains_iff_mem, mem_supertypeNames_iff]

end KotlinLint
