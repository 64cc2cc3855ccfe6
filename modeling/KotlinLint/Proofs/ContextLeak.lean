import KotlinLint.Proofs.Call.Preorder
import KotlinLint.Proofs.Hierarchy.Chain
import KotlinLint.Rules.ContextLeak

/-!
# Functions that leak a component context

What the rule looks for is described without its searches: which classes are activities and
fragments, which call of a function creates a component context in composition, and what a file
has to import (`ContextLeak.Leaks`). The rule has one finding for each function that leaks and
none for the others.
-/

namespace KotlinLint.ContextLeak

/-- Whether a class is an activity or a fragment: a chain of supertypes from the class ends with a
name that ends like one. -/
def IsActivityOrFragment (file : File) (declaration : ClassDeclaration) : Prop :=
  ∃ names last, Hierarchy.IsSupertypeChain file declaration names ∧
    names.getLast? = some last ∧
    ("Activity".toList <:+ last.toList ∨ "Fragment".toList <:+ last.toList)

/-- Whether a function carries the annotation of composable functions. -/
def IsComposable (function : FunctionDeclaration) : Prop :=
  Carries function.annotations "@Composable"

/-- Whether a call is the first of its name in a block. -/
def IsFirst (name : String) (block : Block) (call : Call) : Prop :=
  block.preorder.find? (·.callee = name) = some call

/-- The call by which a function creates a component context in composition. -/
inductive CreatesInComposition (function : FunctionDeclaration) (call : Call) : Prop where
  /-- All of a composable function is composition. -/
  | composable {body : Block} : IsComposable function → function.body = some body →
      IsFirst "defaultComponentContext" body call → CreatesInComposition function call
  /-- Another function starts composition with the first lambda of its first `setContent`. -/
  | setContent {body lambda : Block} {entry : Call} : ¬ IsComposable function →
      function.body = some body → IsFirst "setContent" body entry →
      entry.lambdas.head? = some lambda →
      IsFirst "defaultComponentContext" lambda call → CreatesInComposition function call

/-- Whether a function inside a class leaks a component context by a call. -/
structure Leaks (file : File) (enclosing : ClassDeclaration) (function : FunctionDeclaration)
    (call : Call) : Prop where
  /-- The class is an activity or a fragment. -/
  host : IsActivityOrFragment file enclosing
  /-- The file imports the factory. -/
  imported : file.Imports ["com", "arkivanov", "decompose", "defaultComponentContext"]
  /-- The call creates a component context in composition. -/
  created : CreatesInComposition function call

/-- The finding at a call in a file. -/
def findingAt (file : File) (call : Call) : Finding where
  rule := "DecomposeComponentContextRule"
  severity := .codeSmell
  location :=
    { file := file.path
      line := call.span.line
      column := call.span.column
      offset := call.span.start
      length := call.span.stop - call.span.start }
  message := "Avoid using defaultComponentContext inside Composable functions."

/-- The rule's test for activities and fragments follows the chains of supertypes. -/
theorem isHost_iff (file : File) (declaration : ClassDeclaration) :
    isHost file declaration = true ↔ IsActivityOrFragment file declaration := by
  have ending := Hierarchy.inheritsEnding_iff_chain_getLast file declaration
  rw [isHost, hostEndings, List.any_cons, List.any_cons, List.any_nil, Bool.or_false,
    Bool.or_eq_true, ending, ending]
  constructor
  · intro inherits
    rcases inherits with ⟨names, last, chain, isLast, ends⟩ | ⟨names, last, chain, isLast, ends⟩
    · exact ⟨names, last, chain, isLast, .inl ends⟩
    · exact ⟨names, last, chain, isLast, .inr ends⟩
  · intro host
    obtain ⟨names, last, chain, isLast, ends | ends⟩ := host
    · exact .inl ⟨names, last, chain, isLast, ends⟩
    · exact .inr ⟨names, last, chain, isLast, ends⟩

/-- The rule's test for composable functions compares with what `@Composable` writes. -/
theorem isAmong_composable_iff (function : FunctionDeclaration) :
    composable.isAmong function.annotations = true ↔ IsComposable function := by
  have written : AnnotationEntry.read "@Composable" = some composable := by decide
  exact carries_iff written function.annotations

/-- The rule's search in the body of a function finds the call that creates a context in
composition. -/
theorem leakedCall?_iff (function : FunctionDeclaration) (call : Call) :
    (function.body.bind fun body =>
      leakedCall? body (composable.isAmong function.annotations)) = some call ↔
      CreatesInComposition function call := by
  have search : ∀ (name : String) (block : Block) (found : Call),
      block.find? name = some found ↔ IsFirst name block found := by
    intro name block found
    rw [Block.find?_eq_preorder_find?, IsFirst]
  have marked := isAmong_composable_iff function
  rw [Option.bind_eq_some_iff]
  by_cases isComposable : composable.isAmong function.annotations = true
  · have carries := marked.mp isComposable
    constructor
    · intro leak
      obtain ⟨body, hasBody, found⟩ := leak
      rw [leakedCall?, if_pos isComposable, search] at found
      exact .composable carries hasBody found
    · intro created
      cases created with
      | @composable body _ hasBody found =>
        refine ⟨body, hasBody, ?_⟩
        rw [leakedCall?, if_pos isComposable, search]
        exact found
      | setContent plain => exact absurd carries plain
  · have plain : ¬ IsComposable function := fun carries => isComposable (marked.mpr carries)
    constructor
    · intro leak
      obtain ⟨body, hasBody, found⟩ := leak
      rw [leakedCall?, if_neg isComposable, Option.bind_eq_some_iff] at found
      obtain ⟨lambda, composition, found⟩ := found
      obtain ⟨entry, entered, first⟩ := Option.bind_eq_some_iff.mp composition
      rw [search] at entered found
      exact .setContent plain hasBody entered first found
    · intro created
      cases created with
      | composable carries => exact absurd carries plain
      | @setContent body lambda entry _ hasBody entered first found =>
        have composition : (body.find? "setContent").bind Call.firstLambda = some lambda := by
          rw [Option.bind_eq_some_iff]
          exact ⟨entry, (search _ _ _).mpr entered, first⟩
        refine ⟨body, hasBody, ?_⟩
        rw [leakedCall?, if_neg isComposable, Option.bind_eq_some_iff]
        exact ⟨lambda, composition, (search _ _ _).mpr found⟩

/-- The finding that the rule answers to a visit. -/
def answer? (file : File) : Visit → Option Finding
  | .ofFunction (some enclosing) function =>
    if isHost file enclosing && file.hasImport factoryImport then
      function.body.bind (finding? file function)
    else none
  | .ofFunction none _ => none
  | .ofClass _ => none
  | .ofFile => none

/-- The rule answers at most one finding to a visit. -/
theorem visit_findings (file : File) (visit : Visit) :
    (rule.visit file visit).findings = (answer? file visit).toList := by
  cases visit with
  | ofClass declaration => rfl
  | ofFile => rfl
  | ofFunction enclosing function =>
    show (visitFunction file enclosing function).findings = _
    cases enclosing with
    | none => rfl
    | some declaration =>
      rw [visitFunction, answer?]
      cases isHost file declaration <;> cases file.hasImport factoryImport <;> rfl

/-- Only the visit of a function inside a class is answered a finding. -/
theorem ofFunction_of_answer? {file : File} {visit : Visit} {finding : Finding}
    (answered : answer? file visit = some finding) :
    ∃ function enclosing, visit = .ofFunction (some enclosing) function := by
  cases visit with
  | ofClass declaration => cases answered
  | ofFile => cases answered
  | ofFunction enclosing function =>
    cases enclosing with
    | none => cases answered
    | some declaration => exact ⟨function, declaration, rfl⟩

/-- The rule answers a finding to the visit of a function exactly when the function leaks. -/
theorem answer?_ofFunction_iff (file : File) (enclosing : ClassDeclaration)
    (function : FunctionDeclaration) (finding : Finding) :
    answer? file (.ofFunction (some enclosing) function) = some finding ↔
      ∃ call, Leaks file enclosing function call ∧ finding = findingAt file call := by
  have search : function.body.bind (finding? file function) =
      (function.body.bind fun body =>
        leakedCall? body (composable.isAmong function.annotations)).map (findingAt file) := by
    rw [Option.map_bind]
    rfl
  rw [answer?, search, Option.ite_none_right_eq_some, Bool.and_eq_true, isHost_iff, factoryImport,
    File.hasImport_plain_iff, Option.map_eq_some_iff]
  simp only [leakedCall?_iff]
  constructor
  · intro answered
    obtain ⟨⟨host, imported⟩, call, created, same⟩ := answered
    exact ⟨call, ⟨host, imported, created⟩, same.symm⟩
  · intro leak
    obtain ⟨call, ⟨host, imported, created⟩, same⟩ := leak
    exact ⟨⟨host, imported⟩, call, created, same.symm⟩

/-- The findings of the rule are those of the functions that leak, one for each: the paths to the
declarations of the file, each listed once and in order, keep their order, and a path has a
finding exactly when it leads to a function inside a class that leaks by a call. -/
theorem findings_of_leaking_functions (id : String) (file : File) :
    file.EnumeratedBy file.paths ∧
      ∃ found : List Nat → Option Finding,
        (RuleSet.check ⟨id, [rule], []⟩ file).findings = file.paths.filterMap found ∧
        ∀ path finding, found path = some finding ↔
          ∃ function enclosing call, file.follow? path = some (.ofFunction function) ∧
            file.enclosingClass? path = some enclosing ∧
            Leaks file enclosing function call ∧ finding = findingAt file call := by
  refine ⟨file.enumeratedBy_paths, fun path => (file.visitAt? path).bind (answer? file), ?_, ?_⟩
  · have answers : (fun visit => (rule.visit file visit).findings) =
        fun visit => (answer? file visit).toList := funext (visit_findings file)
    rw [RuleSet.check_single, answers, ← List.filterMap_eq_flatMap_toList, File.visits_eq,
      List.filterMap_append, List.filterMap_filterMap]
    exact List.append_nil _
  · intro path finding
    show (file.visitAt? path).bind (answer? file) = some finding ↔ _
    constructor
    · intro answered
      obtain ⟨visit, visited, answered⟩ := Option.bind_eq_some_iff.mp answered
      obtain ⟨function, enclosing, rfl⟩ := ofFunction_of_answer? answered
      obtain ⟨leads, inside⟩ := File.visitAt?_eq_ofFunction_iff.mp visited
      obtain ⟨call, leak, same⟩ :=
        (answer?_ofFunction_iff file enclosing function finding).mp answered
      exact ⟨function, enclosing, call, leads, inside, leak, same⟩
    · intro leak
      obtain ⟨function, enclosing, call, leads, inside, leak, same⟩ := leak
      have visited := File.visitAt?_eq_ofFunction_iff.mpr ⟨leads, inside⟩
      have answered := (answer?_ofFunction_iff file enclosing function finding).mpr
        ⟨call, leak, same⟩
      exact Option.bind_eq_some_iff.mpr ⟨_, visited, answered⟩

end KotlinLint.ContextLeak
