import KotlinLint.Severity
import KotlinLint.Span

/-!
# Issues and findings

An issue is what a rule reports and how long one occurrence takes to mend; a finding is one
occurrence of it at a place in a file.
-/

namespace KotlinLint

/-- The time that mending one occurrence takes. -/
structure Debt where
  /-- The time in minutes. -/
  minutes : Nat
deriving DecidableEq

/-- The time as a reader sees it. -/
def Debt.render (debt : Debt) : String := s!"{debt.minutes}min"

/-- What a rule reports. -/
structure Issue where
  /-- The identifier of the rule. -/
  id : String
  /-- The severity of its findings, unless a configuration overrides it. -/
  severity : Severity
  description : String
  debt : Debt
deriving DecidableEq

/-- A place in a file, as findings name it. -/
structure Location where
  /-- The path of the file. -/
  file : String
  /-- The line, counted from one. -/
  line : Nat
  /-- The column, counted from one. -/
  column : Nat
  /-- The first byte. -/
  offset : Nat := 0
  /-- The number of bytes. -/
  length : Nat := 0
deriving DecidableEq

/-- The place of a span in a file. -/
def Location.ofSpan (file : String) (span : Span) : Location :=
  ⟨file, span.line, span.column, span.start, span.length⟩

/-- One occurrence of an issue. -/
structure Finding where
  /-- The identifier of the rule that found it. -/
  rule : String
  severity : Severity
  location : Location
  message : String
  /-- Where to read more. -/
  docRef : Option String := none
deriving DecidableEq

namespace Finding

/-- A finding with the rule and the severity of an issue. -/
def ofIssue (issue : Issue) (location : Location) (message : String) : Finding :=
  ⟨issue.id, issue.severity, location, message, none⟩

/-- The finding with another severity. -/
def withSeverity (finding : Finding) (severity : Severity) : Finding :=
  { finding with severity := severity }

/-- The finding as one line for a reader. -/
def render (finding : Finding) : String :=
  let place := s!"{finding.location.file}:{finding.location.line}:{finding.location.column}"
  let reference :=
    match finding.docRef with
    | none => ""
    | some docRef => s!" (see: {docRef})"
  s!"{place}: {finding.severity.name} [{finding.rule}] {finding.message}" ++ reference

end Finding

end KotlinLint
