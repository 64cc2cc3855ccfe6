/-!
# Severities

How serious a finding is. The four severities are ordered, and each has one name by which it is
written in configurations and reports.
-/

namespace KotlinLint

/-- How serious a finding is, from the least to the most. -/
inductive Severity where
  | info
  | codeSmell
  | warning
  | error
deriving DecidableEq

namespace Severity

/-- All severities in ascending order. -/
def all : List Severity := [info, codeSmell, warning, error]

/-- The name of a severity. -/
def name : Severity → String
  | info => "info"
  | codeSmell => "code-smell"
  | warning => "warning"
  | error => "error"

/-- The severity of a name. -/
def ofName? (name : String) : Option Severity := all.find? (·.name = name)

/-- The position of a severity in ascending order. -/
def rank : Severity → Nat
  | info => 0
  | codeSmell => 1
  | warning => 2
  | error => 3

instance : LE Severity := ⟨fun left right => left.rank ≤ right.rank⟩

instance (left right : Severity) : Decidable (left ≤ right) :=
  inferInstanceAs (Decidable (left.rank ≤ right.rank))

/-- Severities in ascending order. -/
def sort (severities : List Severity) : List Severity :=
  severities.mergeSort fun left right => left ≤ right

/-- Reading the name of a severity gives it back. -/
theorem ofName?_name (severity : Severity) : ofName? severity.name = some severity := by
  cases severity <;> decide

/-- A severity is read from its name only. -/
theorem ofName?_eq_some_iff {name : String} {severity : Severity} :
    ofName? name = some severity ↔ name = severity.name := by
  constructor
  · intro found
    have same := List.find?_some found
    exact (of_decide_eq_true same).symm
  · rintro rfl
    exact ofName?_name severity

/-- Severities of one name are the same. -/
theorem name_injective : Function.Injective name := by
  intro left right same
  have named : ofName? right.name = some left := ofName?_eq_some_iff.mpr same.symm
  rw [ofName?_name, Option.some.injEq] at named
  exact named.symm

end Severity

end KotlinLint
