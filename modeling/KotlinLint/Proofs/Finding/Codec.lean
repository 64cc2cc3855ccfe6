import KotlinLint.Finding.Codec
import KotlinLint.Proofs.Json

/-!
# Issues and findings read back

What an issue, a time or a finding is written as is read back as it, and so is every object that
restates it: the fields may stand in any order among fields of other names, in the object itself and
in the record that it holds, and a reference that is missing may be null
(`Finding.restated_read_back`). Numbers have to fit in the bits that they are stored in.
-/

namespace KotlinLint

open Json (Restates)

/-- Reading a written severity gives it back. -/
theorem Severity.ofJson?_toJson (severity : Severity) : ofJson? severity.toJson = some severity :=
  ofName?_name severity

namespace Debt

/-- Whether the minutes fit in 32 bits. -/
def Fits (debt : Debt) : Prop := debt.minutes < Nat.pow 2 32

/-- Whether an object restates a time. -/
def Restates : Json → Json → Prop := Json.Restates ["mins"] fun _ => Eq

/-- What restates a written time is read as it. -/
theorem ofJson?_of_restates {debt : Debt} {json : Json} (fits : debt.Fits)
    (restates : Restates debt.toJson json) : ofJson? json = some debt := by
  obtain ⟨field, read, found, _⟩ := restates.exists_record? (by simp)
  obtain ⟨_, minutes, rfl⟩ := found ("mins", .ofNat debt.minutes) (by simp) (by simp)
  rw [ofJson?, read]
  have stored : debt.minutes < bound := fits
  simp only [Option.bind_eq_bind, Option.bind_some, minutes, Json.natBelow?_ofNat stored]
  rfl

/-- What a time is written as restates itself. -/
theorem restates_toJson (debt : Debt) : Restates debt.toJson debt.toJson := .refl fun _ _ => rfl

end Debt

namespace Issue

/-- Whether an object restates an issue, whose time may be restated. -/
def Restates : Json → Json → Prop :=
  Json.Restates ["id", "severity", "description", "debt"] fun name =>
    if name = "debt" then Debt.Restates else Eq

/-- What restates a written issue is read as it. -/
theorem ofJson?_of_restates {issue : Issue} {json : Json} (fits : issue.debt.Fits)
    (restates : Restates issue.toJson json) : ofJson? json = some issue := by
  obtain ⟨field, read, found, _⟩ := restates.exists_record? (by simp)
  obtain ⟨_, id, rfl⟩ := found ("id", .string issue.id) (by simp) (by simp)
  obtain ⟨_, severity, rfl⟩ := found ("severity", issue.severity.toJson) (by simp) (by simp)
  obtain ⟨_, description, rfl⟩ :=
    found ("description", .string issue.description) (by simp) (by simp)
  obtain ⟨time, debt, isTime⟩ := found ("debt", issue.debt.toJson) (by simp) (by simp)
  rw [ofJson?, read]
  simp only [Option.bind_eq_bind, Option.bind_some, id, severity, description, debt, Json.string?,
    Severity.ofJson?_toJson, Debt.ofJson?_of_restates fits isTime]
  rfl

/-- What an issue is written as restates itself. -/
theorem restates_toJson (issue : Issue) : Restates issue.toJson issue.toJson := by
  refine .refl ?_
  simp [issue.debt.restates_toJson]

end Issue

namespace Location

/-- Whether the numbers of a place fit in 64 bits. -/
structure Fits (location : Location) : Prop where
  line : location.line < Nat.pow 2 64
  column : location.column < Nat.pow 2 64
  offset : location.offset < Nat.pow 2 64
  length : location.length < Nat.pow 2 64

/-- Whether an object restates a place. -/
def Restates : Json → Json → Prop :=
  Json.Restates ["file", "line", "column", "offset", "length"] fun _ => Eq

/-- What restates a written place is read as it. -/
theorem ofJson?_of_restates {location : Location} {json : Json} (fits : location.Fits)
    (restates : Restates location.toJson json) : ofJson? json = some location := by
  obtain ⟨field, read, found, _⟩ := restates.exists_record? (by simp)
  obtain ⟨_, file, rfl⟩ := found ("file", .string location.file) (by simp) (by simp)
  obtain ⟨_, line, rfl⟩ := found ("line", .ofNat location.line) (by simp) (by simp)
  obtain ⟨_, column, rfl⟩ := found ("column", .ofNat location.column) (by simp) (by simp)
  obtain ⟨_, offset, rfl⟩ := found ("offset", .ofNat location.offset) (by simp) (by simp)
  obtain ⟨_, length, rfl⟩ := found ("length", .ofNat location.length) (by simp) (by simp)
  have stored : ∀ {number : Nat}, number < Nat.pow 2 64 →
      Json.natBelow? bound (.ofNat number) = some number := Json.natBelow?_ofNat
  rw [ofJson?, read]
  simp only [Option.bind_eq_bind, Option.bind_some, file, line, column, offset, length,
    Json.string?, stored fits.line, stored fits.column, stored fits.offset, stored fits.length]
  rfl

end Location

namespace Finding

/-- Whether an object restates a finding, whose place may be restated. -/
def Restates : Json → Json → Prop :=
  Json.Restates ["rule", "severity", "location", "message", "doc_ref"] fun name =>
    if name = "location" then Location.Restates else Eq

/-- The forms of a finding that may be restated. -/
inductive IsForm (finding : Finding) : Json → Prop where
  /-- What the finding is written as. -/
  | written : IsForm finding finding.toJson
  /-- What a finding without a reference is written as, with null as the reference. -/
  | null {fields : List (String × Json)} : finding.docRef = none →
      finding.toJson = .object fields → IsForm finding (.object (fields ++ [("doc_ref", .null)]))

/-- The forms of a finding have its fields and a field for the reference or none, of which the
reference is read. -/
theorem IsForm.exists_reference {finding : Finding} {form : Json} (isForm : finding.IsForm form) :
    ∃ reference : Option Json, Json.optionalString? reference = some finding.docRef ∧
      form = .object ([("rule", .string finding.rule), ("severity", finding.severity.toJson),
        ("location", finding.location.toJson), ("message", .string finding.message)] ++
        (reference.map ("doc_ref", ·)).toList) := by
  cases isForm with
  | written =>
    cases reference : finding.docRef with
    | none => exact ⟨none, rfl, by rw [toJson, reference]; rfl⟩
    | some docRef => exact ⟨some (.string docRef), rfl, by rw [toJson, reference]; rfl⟩
  | null absent whole =>
    rw [toJson, absent] at whole
    refine ⟨some .null, by rw [absent]; rfl, ?_⟩
    rw [← Json.object.inj whole]
    rfl

/-- What restates a form of a finding is read as it. -/
theorem ofJson?_of_restates {finding : Finding} {form json : Json} (fits : finding.location.Fits)
    (isForm : finding.IsForm form) (restates : Restates form json) :
    ofJson? json = some finding := by
  obtain ⟨reference, isReference, rfl⟩ := isForm.exists_reference
  obtain ⟨field, read, found, absent⟩ := restates.exists_record? (by cases reference <;> simp)
  obtain ⟨_, rule, rfl⟩ := found ("rule", .string finding.rule) (by simp) (by simp)
  obtain ⟨_, severity, rfl⟩ := found ("severity", finding.severity.toJson) (by simp) (by simp)
  obtain ⟨place, location, isPlace⟩ :=
    found ("location", finding.location.toJson) (by simp) (by simp)
  obtain ⟨_, message, rfl⟩ := found ("message", .string finding.message) (by simp) (by simp)
  have docRef : field "doc_ref" = reference := by
    cases reference with
    | none => exact absent "doc_ref" (by simp) (by simp)
    | some value =>
      obtain ⟨_, docRef, rfl⟩ := found ("doc_ref", value) (by simp) (by simp)
      exact docRef
  rw [ofJson?, read]
  simp only [Option.bind_eq_bind, Option.bind_some, rule, severity, location, message, docRef,
    Json.string?, Severity.ofJson?_toJson, Location.ofJson?_of_restates fits isPlace, isReference]
  rfl

/-- The forms of a finding restate themselves. -/
theorem IsForm.restates_self {finding : Finding} {form : Json} (isForm : finding.IsForm form) :
    Restates form form := by
  obtain ⟨reference, _, rfl⟩ := isForm.exists_reference
  have place : Location.Restates finding.location.toJson finding.location.toJson :=
    .refl fun _ _ => rfl
  refine .refl ?_
  cases reference <;> simp [place]

/-- What a finding is written as is read as the finding. -/
theorem ofJson?_toJson {finding : Finding} (fits : finding.location.Fits) :
    ofJson? finding.toJson = some finding :=
  ofJson?_of_restates fits .written IsForm.written.restates_self

/-- What a finding is written as is read as the finding, and so is every object that restates this,
with or without null for a missing reference. What an issue or a time is written as is read as
these, and so is every object that restates it. So findings that are written alike are the same. -/
theorem restated_read_back :
    (∀ finding : Finding, finding.location.Fits → ofJson? finding.toJson = some finding ∧
      ∀ form, finding.IsForm form → Restates form form ∧
        ∀ json, Restates form json → ofJson? json = some finding) ∧
    (∀ issue : Issue, issue.debt.Fits → Issue.ofJson? issue.toJson = some issue ∧
      Issue.Restates issue.toJson issue.toJson ∧
      ∀ json, Issue.Restates issue.toJson json → Issue.ofJson? json = some issue) ∧
    (∀ debt : Debt, debt.Fits → Debt.ofJson? debt.toJson = some debt ∧
      Debt.Restates debt.toJson debt.toJson ∧
      ∀ json, Debt.Restates debt.toJson json → Debt.ofJson? json = some debt) ∧
    ∀ first second : Finding, first.location.Fits → second.location.Fits →
      first.toJson = second.toJson → first = second := by
  refine ⟨?_, ?_, ?_, ?_⟩
  · intro finding fits
    refine ⟨ofJson?_toJson fits, fun form isForm => ⟨isForm.restates_self, ?_⟩⟩
    intro json restates
    exact ofJson?_of_restates fits isForm restates
  · intro issue fits
    have itself := issue.restates_toJson
    refine ⟨Issue.ofJson?_of_restates fits itself, itself, ?_⟩
    intro json restates
    exact Issue.ofJson?_of_restates fits restates
  · intro debt fits
    have itself := debt.restates_toJson
    refine ⟨Debt.ofJson?_of_restates fits itself, itself, ?_⟩
    intro json restates
    exact Debt.ofJson?_of_restates fits restates
  · intro first second fits otherFits same
    have read := ofJson?_toJson fits
    rw [same, ofJson?_toJson otherFits] at read
    exact (Option.some.inj read).symm

/-- An issue with the most minutes that can be stored. -/
def longIssue : Issue := ⟨"R", .codeSmell, "d", ⟨4294967295⟩⟩

/-- Its time with a field of another name. -/
def longTime : Json := .object [("unit", .string "min"), ("mins", .ofNat 4294967295)]

/-- The issue with its time so, a field of another name and the fields in another order. -/
def longObject : Json :=
  .object [("url", .null), ("id", .string "R"), ("severity", .string "code-smell"),
    ("description", .string "d"), ("debt", longTime)].reverse

/-- A finding of the issue at the last line and column that can be stored. -/
def lastFinding : Finding :=
  .ofIssue longIssue ⟨"A.kt", 18446744073709551615, 18446744073709551615, 0, 0⟩ "m"

/-- Its place with a field of another name and the fields in another order. -/
def lastPlace : Json :=
  .object [("end", .null), ("file", .string "A.kt"), ("line", .ofNat 18446744073709551615),
    ("column", .ofNat 18446744073709551615), ("offset", .ofNat 0), ("length", .ofNat 0)].reverse

/-- The finding with its place so, null for the reference, a field of another name and the fields
in another order. -/
def lastObject : Json :=
  .object [("tool", .string "lint"), ("rule", .string "R"), ("severity", .string "code-smell"),
    ("location", lastPlace), ("message", .string "m"), ("doc_ref", .null)].reverse

/-- The time, the place and the issue are restated by their objects. -/
theorem longObject_restates : Debt.Restates longIssue.debt.toJson longTime ∧
    Issue.Restates longIssue.toJson longObject ∧
    Location.Restates lastFinding.location.toJson lastPlace := by
  have time : Debt.Restates longIssue.debt.toJson longTime :=
    (Json.Restates.refl fun _ _ => rfl).insert (by simp) _
  refine ⟨time, ?_, ?_⟩
  · refine ((Json.Restates.of_paired ?_).insert (by simp) _).reorder (List.reverse_perm _)
    exact .cons rfl (.cons rfl (.cons rfl (.cons time .nil)))
  · refine ((Json.Restates.refl ?_).insert (by simp) _).reorder (List.reverse_perm _)
    exact fun _ _ => rfl

/-- The finding with null for the reference is restated by its object. -/
theorem lastObject_restates : Restates
    (.object ([("rule", .string "R"), ("severity", .string "code-smell"),
      ("location", lastFinding.location.toJson), ("message", .string "m")] ++ [("doc_ref", .null)]))
    lastObject := by
  refine ((Json.Restates.of_paired ?_).insert (by simp) _).reorder (List.reverse_perm _)
  exact .cons rfl (.cons rfl (.cons longObject_restates.2.2 (.cons rfl (.cons rfl .nil))))

/-- The issue and the finding are read back from what they are written as and from their objects,
with numbers that just fit. -/
theorem lastObject_read_back : lastFinding.location.Fits ∧ longIssue.debt.Fits ∧
    ofJson? lastFinding.toJson = some lastFinding ∧ ofJson? lastObject = some lastFinding ∧
    Issue.ofJson? longIssue.toJson = some longIssue ∧
    Issue.ofJson? longObject = some longIssue ∧
    Debt.ofJson? longIssue.debt.toJson = some longIssue.debt ∧
    Debt.ofJson? longTime = some longIssue.debt ∧
    lastFinding = ⟨"R", .codeSmell, lastFinding.location, "m", none⟩ := by
  have fits : lastFinding.location.Fits := by constructor <;> decide
  have timeFits : longIssue.debt.Fits := show 4294967295 < Nat.pow 2 32 by decide
  obtain ⟨time, issue, _⟩ := longObject_restates
  obtain ⟨readFinding, readIssue, readDebt, inj⟩ := restated_read_back
  obtain ⟨findingBack, forms⟩ := readFinding lastFinding fits
  obtain ⟨issueBack, _, restatedIssue⟩ := readIssue longIssue timeFits
  obtain ⟨timeBack, _, restatedTime⟩ := readDebt longIssue.debt timeFits
  exact ⟨fits, timeFits, findingBack, (forms _ (.null rfl rfl)).2 _ lastObject_restates,
    issueBack, restatedIssue _ issue, timeBack, restatedTime _ time, inj _ _ fits fits rfl⟩

end Finding

end KotlinLint
