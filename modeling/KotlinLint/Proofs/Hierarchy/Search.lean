import KotlinLint.Proofs.Inheritance

/-!
# Searching with a list of followed names

Supertypes are searched in steps. One step takes a name that is pending and compares its ending;
when the name was not followed before, it is followed, and the supertypes of its class are put on
top of what is pending. A name that was followed is only taken away. Each step keeps the answer
(`Search.answer_of_step_inl`) and lowers what is left to do (`Search.cost_of_step_inl`): every
name that is pending, and the supertypes of every class that was not followed. So a search ends
after at most one step for each supertype that is written in the class or in the file, and one
more, also when classes inherit each other in a circle (`Search.run_start`).
-/

namespace KotlinLint.Hierarchy

/-- The supertypes that are known of a name; there are none unless a class stands for it. -/
def supertypesOf (hierarchy : Hierarchy) (name : String) : List String :=
  ((hierarchy.get? name).map ClassDeclaration.supertypeNames).getD []

/-- The hierarchy without the classes of some names. -/
def without (hierarchy : Hierarchy) (names : List String) : Hierarchy :=
  ⟨hierarchy.classes.filter fun declaration => declaration.name ∉ names⟩

/-- How many supertypes the classes of a hierarchy have together. -/
def supertypeCount (hierarchy : Hierarchy) : Nat :=
  (hierarchy.classes.flatMap fun declaration => declaration.supertypeNames).length

/-- A search on its way. -/
structure Search where
  /-- The names that were followed. -/
  followed : List String
  /-- The names that are to be looked at, the next one first. -/
  pending : List String

namespace Search

/-- The search from a class. -/
def start (declaration : ClassDeclaration) : Search := ⟨[], declaration.supertypeNames.reverse⟩

/-- One step of a search for a name ending, to the rest of the search or to its answer. -/
def step (hierarchy : Hierarchy) (ending : String) : Search → Search ⊕ Bool
  | ⟨_, []⟩ => .inr false
  | ⟨followed, name :: pending⟩ =>
    if Text.endsWith name ending then .inr true
    else if name ∈ followed then .inl ⟨followed, pending⟩
    else .inl ⟨name :: followed, (hierarchy.supertypesOf name).reverse ++ pending⟩

/-- The answer of a search that ends within a number of steps. -/
def run (hierarchy : Hierarchy) (ending : String) : Nat → Search → Option Bool
  | 0, _ => none
  | steps + 1, search =>
    match search.step hierarchy ending with
    | .inr answer => some answer
    | .inl next => run hierarchy ending steps next

/-- What a search is to answer: whether a name with the ending is reached from the pending names
through classes that were not followed. -/
def answer (hierarchy : Hierarchy) (ending : String) (search : Search) : Bool :=
  reaches ending (hierarchy.without search.followed) search.pending

/-- What is left to do in a search. -/
def cost (hierarchy : Hierarchy) (search : Search) : Nat :=
  search.pending.length + (hierarchy.without search.followed).supertypeCount

end Search

section Without

variable {hierarchy : Hierarchy} {name : String} {names : List String}

/-- Without no names a hierarchy is what it is. -/
theorem without_nil (hierarchy : Hierarchy) : hierarchy.without [] = hierarchy := by
  obtain ⟨classes⟩ := hierarchy
  simp [without]

/-- A further name is left out by leaving it out of the rest. -/
theorem without_cons (hierarchy : Hierarchy) (name : String) (names : List String) :
    hierarchy.without (name :: names) = (hierarchy.without names).erase name := by
  rw [without, without, erase, List.filter_filter]
  congr 2
  funext declaration
  simp [not_or]

/-- No class stands for a name that is left out. -/
theorem get?_without_of_mem (left : name ∈ names) : (hierarchy.without names).get? name = none := by
  simp only [get?, without, List.find?_filter, List.find?_eq_none]
  intro declaration _ both
  obtain ⟨stays, named⟩ : declaration.name ∉ names ∧ declaration.name = name := by
    simpa using both
  exact stays (named ▸ left)

/-- The class that stands for another name stays. -/
theorem get?_without_of_notMem (stays : name ∉ names) :
    (hierarchy.without names).get? name = hierarchy.get? name := by
  rw [get?, get?, without, List.find?_filter]
  congr 1
  funext declaration
  by_cases named : declaration.name = name
  · simp [named, stays]
  · simp [named]

/-- Nothing is left out by a name for which no class stands. -/
theorem erase_of_unresolved (unresolved : hierarchy.get? name = none) :
    hierarchy.erase name = hierarchy := by
  have others := List.find?_eq_none.mp unresolved
  rw [erase, List.filter_eq_self.mpr]
  intro declaration listed
  simpa using others declaration listed

/-- Leaving out a name takes away at least the supertypes of the class that stands for it. -/
theorem supertypeCount_erase_add_le (hierarchy : Hierarchy) (name : String) :
    (hierarchy.erase name).supertypeCount + (hierarchy.supertypesOf name).length ≤
      hierarchy.supertypeCount := by
  obtain ⟨classes⟩ := hierarchy
  induction classes with
  | nil => exact Nat.le_refl 0
  | cons declaration rest ih =>
    have count : supertypeCount ⟨declaration :: rest⟩ =
        declaration.supertypeNames.length + supertypeCount ⟨rest⟩ := by
      rw [supertypeCount, List.flatMap_cons, List.length_append, supertypeCount]
    by_cases named : declaration.name = name
    · -- The class stands for the name; later classes of the name are left out with it.
      have left : erase ⟨declaration :: rest⟩ name = erase ⟨rest⟩ name := by
        simp [erase, named]
      have own : supertypesOf ⟨declaration :: rest⟩ name = declaration.supertypeNames := by
        simp [supertypesOf, get?, named]
      rw [left, own, count]
      omega
    · have stays : (erase ⟨declaration :: rest⟩ name).supertypeCount =
          declaration.supertypeNames.length + (erase ⟨rest⟩ name).supertypeCount := by
        simp [erase, named, supertypeCount]
      have others : supertypesOf ⟨declaration :: rest⟩ name = supertypesOf ⟨rest⟩ name := by
        simp [supertypesOf, get?, named]
      rw [stays, others, count]
      omega

/-- A search finds the same from the same names, in whatever order and however often they are
pending. -/
theorem reaches_congr {pending others : List String} (ending : String) (hierarchy : Hierarchy)
    (same : ∀ name, name ∈ pending ↔ name ∈ others) :
    reaches ending hierarchy pending = reaches ending hierarchy others := by
  rw [Bool.eq_iff_iff, reaches_iff, reaches_iff]
  have forth : pending ⊆ others := fun name => (same name).mp
  have back : others ⊆ pending := fun name => (same name).mpr
  constructor
  · intro found
    obtain ⟨name, reached, ends⟩ := found
    exact ⟨name, reached.mono forth, ends⟩
  · intro found
    obtain ⟨name, reached, ends⟩ := found
    exact ⟨name, reached.mono back, ends⟩

end Without

section Step

variable {hierarchy : Hierarchy} {ending name : String} {pending : List String}

/-- A name with the ending is found. -/
theorem reaches_of_endsWith (ends : Text.endsWith name ending) :
    reaches ending hierarchy (name :: pending) = true := by
  rw [reaches, if_pos ends]

/-- A name without the ending leads on to its supertypes, and is not needed again. -/
theorem reaches_of_not_endsWith (other : ¬ Text.endsWith name ending) :
    reaches ending hierarchy (name :: pending) =
      reaches ending (hierarchy.erase name) (hierarchy.supertypesOf name ++ pending) := by
  rw [reaches, if_neg other]
  cases known : hierarchy.get? name with
  | none =>
    simp only [supertypesOf, known, erase_of_unresolved known, Option.map_none, Option.getD_none,
      List.nil_append]
  | some parent =>
    simp only [supertypesOf, known, Option.map_some, Option.getD_some]

end Step

namespace Search

variable {hierarchy : Hierarchy} {ending : String} {search : Search}

/-- A name that was followed leads nowhere else. -/
theorem answer_of_mem {name : String} {followed pending : List String}
    (other : ¬ Text.endsWith name ending) (seen : name ∈ followed) :
    answer hierarchy ending ⟨followed, name :: pending⟩ =
      answer hierarchy ending ⟨followed, pending⟩ := by
  have unresolved : (hierarchy.without followed).get? name = none := get?_without_of_mem seen
  rw [answer, answer, reaches_of_not_endsWith other, erase_of_unresolved unresolved,
    supertypesOf, unresolved]
  rfl

/-- A name that was not followed leads to its supertypes. -/
theorem answer_of_notMem {name : String} {followed pending : List String}
    (other : ¬ Text.endsWith name ending) (fresh : name ∉ followed) :
    answer hierarchy ending ⟨followed, name :: pending⟩ =
      answer hierarchy ending
        ⟨name :: followed, (hierarchy.supertypesOf name).reverse ++ pending⟩ := by
  have known : (hierarchy.without followed).supertypesOf name = hierarchy.supertypesOf name := by
    rw [supertypesOf, get?_without_of_notMem fresh, supertypesOf]
  rw [answer, answer, reaches_of_not_endsWith other, known, without_cons]
  exact reaches_congr ending _ fun found => by simp

/-- A step that ends the search gives its answer. -/
theorem answer_of_step_inr {found : Bool} (ends : search.step hierarchy ending = .inr found) :
    answer hierarchy ending search = found := by
  obtain ⟨followed, pending⟩ := search
  cases pending with
  | nil =>
    cases ends
    rw [answer, reaches]
  | cons name pending =>
    rw [step] at ends
    split at ends
    case isTrue isFound =>
      cases ends
      exact reaches_of_endsWith isFound
    case isFalse => split at ends <;> cases ends

/-- A step that goes on keeps the answer. -/
theorem answer_of_step_inl {next : Search} (goesOn : search.step hierarchy ending = .inl next) :
    answer hierarchy ending search = answer hierarchy ending next := by
  obtain ⟨followed, pending⟩ := search
  cases pending with
  | nil => cases goesOn
  | cons name pending =>
    rw [step] at goesOn
    split at goesOn
    case isTrue => cases goesOn
    case isFalse other =>
      split at goesOn
      case isTrue seen =>
        cases goesOn
        exact answer_of_mem other seen
      case isFalse fresh =>
        cases goesOn
        exact answer_of_notMem other fresh

/-- A step that goes on leaves less to do. -/
theorem cost_of_step_inl {next : Search} (goesOn : search.step hierarchy ending = .inl next) :
    cost hierarchy next < cost hierarchy search := by
  obtain ⟨followed, pending⟩ := search
  cases pending with
  | nil => cases goesOn
  | cons name pending =>
    rw [step] at goesOn
    split at goesOn
    case isTrue => cases goesOn
    case isFalse =>
      split at goesOn
      case isTrue =>
        cases goesOn
        simp only [cost, List.length_cons]
        omega
      case isFalse fresh =>
        cases goesOn
        have paid := supertypeCount_erase_add_le (hierarchy.without followed) name
        rw [← without_cons, supertypesOf, get?_without_of_notMem fresh, ← supertypesOf] at paid
        simp only [cost, List.length_cons, List.length_append, List.length_reverse]
        omega

/-- A search that is given more steps than it has left to do ends with its answer. -/
theorem run_eq_answer {steps : Nat} (enough : cost hierarchy search < steps) :
    search.run hierarchy ending steps = some (answer hierarchy ending search) := by
  induction steps generalizing search with
  | zero => omega
  | succ steps ih =>
    rw [run]
    cases taken : search.step hierarchy ending with
    | inr found => rw [answer_of_step_inr taken]
    | inl next =>
      have less := cost_of_step_inl taken
      rw [answer_of_step_inl taken]
      exact ih (by omega)

/-- The search from a class ends with whether the class inherits the name ending, after at most
one step more than supertypes are written in the class and in the classes of the hierarchy. -/
theorem run_start (hierarchy : Hierarchy) (declaration : ClassDeclaration) (ending : String) :
    (start declaration).run hierarchy ending
        (declaration.supertypeNames.length + hierarchy.supertypeCount + 1) =
      some (hierarchy.inheritsEnding declaration ending) := by
  have costs : cost hierarchy (start declaration) =
      declaration.supertypeNames.length + hierarchy.supertypeCount := by
    rw [cost, start, List.length_reverse, without_nil]
  have answers : answer hierarchy ending (start declaration) =
      hierarchy.inheritsEnding declaration ending := by
    rw [answer, start, without_nil, inheritsEnding]
    exact reaches_congr ending hierarchy fun name => List.mem_reverse
  rw [run_eq_answer (by omega), answers]

end Search

end KotlinLint.Hierarchy
