import KotlinLint.Hierarchy

/-!
# Inherited names

A class inherits the simple names of its supertypes, and through a class of the file all that
this class inherits. The search of a hierarchy leaves out every class it has followed, so it
ends also when classes inherit each other in a circle; it loses nothing by this, because a name
that is reached through a class twice is reached from its supertypes alone
(`Hierarchy.inheritsEnding_iff`).
-/

namespace KotlinLint.Hierarchy

/-- The names that are reached from some names through the classes of a hierarchy. -/
inductive Reached (hierarchy : Hierarchy) (names : List String) : String → Prop where
  /-- The names themselves are reached. -/
  | start {name : String} : name ∈ names → Reached hierarchy names name
  /-- The supertypes of the class that stands for a reached name are reached. -/
  | through {name supertype : String} {parent : ClassDeclaration} :
      Reached hierarchy names name → hierarchy.get? name = some parent →
      supertype ∈ parent.supertypeNames → Reached hierarchy names supertype

/-- The names that a class inherits. -/
def Inherits (hierarchy : Hierarchy) (declaration : ClassDeclaration) (name : String) : Prop :=
  hierarchy.Reached declaration.supertypeNames name

/-- No class stands for a name that is left out. -/
theorem get?_erase_self (hierarchy : Hierarchy) (name : String) :
    (hierarchy.erase name).get? name = none := by
  simp [get?, erase, List.find?_eq_none]

/-- The classes that stand for other names stay when a name is left out. -/
theorem get?_erase_of_ne (hierarchy : Hierarchy) {name other : String} (differ : other ≠ name) :
    (hierarchy.erase name).get? other = hierarchy.get? other := by
  rw [get?, get?, erase, List.find?_filter]
  congr 1
  funext declaration
  by_cases named : declaration.name = other
  · simp [named, differ]
  · simp [named]

/-- More names reach more. -/
theorem Reached.mono {hierarchy : Hierarchy} {names more : List String} {name : String}
    (reached : hierarchy.Reached names name) (subset : names ⊆ more) :
    hierarchy.Reached more name := by
  induction reached with
  | start member => exact .start (subset member)
  | through _ found member ih => exact .through ih found member

/-- Nothing is reached from no names. -/
theorem not_reached_nil (hierarchy : Hierarchy) (name : String) :
    ¬ hierarchy.Reached [] name := by
  intro reached
  induction reached with
  | start member => exact absurd member List.not_mem_nil
  | through _ _ _ ih => exact ih

section Step

variable {hierarchy : Hierarchy} {name reachedName : String} {pending : List String}

/-- A name for which no class stands leads nowhere else. -/
theorem Reached.of_unresolved (unresolved : hierarchy.get? name = none)
    (reached : hierarchy.Reached (name :: pending) reachedName) :
    reachedName = name ∨ hierarchy.Reached pending reachedName := by
  induction reached with
  | start member =>
    rcases List.mem_cons.mp member with same | member
    · exact .inl same
    · exact .inr (.start member)
  | through _ found member ih =>
    rcases ih with rfl | reached
    · rw [unresolved] at found
      contradiction
    · exact .inr (.through reached found member)

variable {parent : ClassDeclaration}

/-- What is reached through the class of a name is reached from the supertypes of the class
without it. -/
theorem Reached.erase (resolved : hierarchy.get? name = some parent)
    (reached : hierarchy.Reached (name :: pending) reachedName) : reachedName = name ∨
      (hierarchy.erase name).Reached (parent.supertypeNames ++ pending) reachedName := by
  induction reached with
  | start member =>
    rcases List.mem_cons.mp member with same | member
    · exact .inl same
    · exact .inr (.start (List.mem_append_right _ member))
  | @through middle supertype found _ resolvedMiddle member ih =>
    -- A name is not followed a second time: its supertypes are among the start already.
    by_cases same : middle = name
    · rw [same, resolved] at resolvedMiddle
      obtain rfl := Option.some.inj resolvedMiddle
      exact .inr (.start (List.mem_append_left _ member))
    · have further := ih.resolve_left same
      rw [← get?_erase_of_ne hierarchy same] at resolvedMiddle
      exact .inr (.through further resolvedMiddle member)

/-- Without the class of a name no more is reached than with it. -/
theorem Reached.of_erase (resolved : hierarchy.get? name = some parent)
    (reached : (hierarchy.erase name).Reached (parent.supertypeNames ++ pending) reachedName) :
    hierarchy.Reached (name :: pending) reachedName := by
  induction reached with
  | start member =>
    rcases List.mem_append.mp member with supertype | member
    · exact .through (.start List.mem_cons_self) resolved supertype
    · exact .start (List.mem_cons_of_mem _ member)
  | @through middle supertype found _ resolvedMiddle member ih =>
    by_cases same : middle = name
    · rw [same, get?_erase_self] at resolvedMiddle
      contradiction
    · rw [get?_erase_of_ne hierarchy same] at resolvedMiddle
      exact .through ih resolvedMiddle member

end Step

/-- The search finds exactly the endings of the names that are reached. -/
theorem reaches_iff (ending : String) (hierarchy : Hierarchy) (names : List String) :
    reaches ending hierarchy names = true ↔
      ∃ name, hierarchy.Reached names name ∧ Text.endsWith name ending := by
  fun_induction reaches ending hierarchy names with
  | case1 hierarchy => simp [not_reached_nil]
  | case2 hierarchy name pending ends =>
    exact iff_of_true rfl ⟨name, .start List.mem_cons_self, ends⟩
  | case3 hierarchy name pending other unresolved ih =>
    rw [ih]
    constructor
    · intro found
      obtain ⟨reachedName, reached, ends⟩ := found
      exact ⟨reachedName, reached.mono (List.subset_cons_self _ _), ends⟩
    · intro found
      obtain ⟨reachedName, reached, ends⟩ := found
      rcases reached.of_unresolved unresolved with rfl | reached
      · exact absurd ends other
      · exact ⟨reachedName, reached, ends⟩
  | case4 hierarchy name pending other parent resolved ih =>
    rw [ih]
    constructor
    · intro found
      obtain ⟨reachedName, reached, ends⟩ := found
      exact ⟨reachedName, reached.of_erase resolved, ends⟩
    · intro found
      obtain ⟨reachedName, reached, ends⟩ := found
      rcases reached.erase resolved with rfl | reached
      · exact absurd ends other
      · exact ⟨reachedName, reached, ends⟩

/-- A class inherits from a type with an ending exactly when it inherits a name with it. -/
theorem inheritsEnding_iff (hierarchy : Hierarchy) (declaration : ClassDeclaration)
    (ending : String) : hierarchy.inheritsEnding declaration ending = true ↔
      ∃ name, hierarchy.Inherits declaration name ∧ Text.endsWith name ending :=
  reaches_iff ending hierarchy declaration.supertypeNames

/-- Whether a hierarchy knows the supertypes of every class that another one knows. -/
def Extends (larger smaller : Hierarchy) : Prop :=
  ∀ name parent, smaller.get? name = some parent →
    ∃ other, larger.get? name = some other ∧ other.supertypeNames = parent.supertypeNames

/-- Every hierarchy knows what it knows. -/
theorem Extends.refl (hierarchy : Hierarchy) : hierarchy.Extends hierarchy :=
  fun _ parent found => ⟨parent, found, rfl⟩

/-- A hierarchy that knows more reaches more. -/
theorem Reached.of_extends {larger smaller : Hierarchy} {names : List String} {name : String}
    (more : larger.Extends smaller) (reached : smaller.Reached names name) :
    larger.Reached names name := by
  induction reached with
  | start member => exact .start member
  | through _ found member ih =>
    obtain ⟨other, known, same⟩ := more _ _ found
    exact .through ih known (same ▸ member)

/-- In a hierarchy that knows more a class with the same supertypes inherits what it inherits in
the other. -/
theorem inheritsEnding_of_extends {larger smaller : Hierarchy} (more : larger.Extends smaller)
    {declaration other : ClassDeclaration}
    (same : other.supertypeNames = declaration.supertypeNames) {ending : String}
    (inherits : smaller.inheritsEnding declaration ending = true) :
    larger.inheritsEnding other ending = true := by
  obtain ⟨name, inherited, ends⟩ := (inheritsEnding_iff _ _ _).mp inherits
  refine (inheritsEnding_iff _ _ _).mpr ⟨name, ?_, ends⟩
  rw [Inherits, same]
  exact Reached.of_extends more inherited

end KotlinLint.Hierarchy
