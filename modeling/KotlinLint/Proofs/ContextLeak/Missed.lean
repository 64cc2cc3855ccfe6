import KotlinLint.Proofs.ContextLeak

/-!
# Leaks that are missed

A function that is not composable leaks a component context when the first lambda of one of its
`setContent` calls calls the factory. The rule follows only the first of these calls. So what it
reports is such a leak, but a function whose first `setContent` call leaks nothing is not
reported, whatever the others leak (`ContextLeak.findings_of_first_entry`).
-/

namespace KotlinLint.ContextLeak

/-- Whether a call of the factory is in the first lambda of a `setContent` call of a block, both at
any depth. -/
structure LeaksThrough (body : Block) (entry call : Call) : Prop where
  /-- The block makes the first call. -/
  entered : entry ∈ body.preorder
  /-- This call starts composition. -/
  starts : entry.callee = "setContent"
  /-- Its first lambda makes the second call. -/
  composed : ∃ lambda, entry.lambdas.head? = some lambda ∧ call ∈ lambda.preorder
  /-- The second call creates a component context. -/
  creates : call.callee = "defaultComponentContext"

/-- Whether a path of a file leads to a function with a body that may leak through `setContent`: it
is not composable, it is declared in an activity or a fragment, and the file imports the factory.
-/
structure MayLeakThroughContent (file : File) (path : List Nat) (body : Block) : Prop where
  /-- The path leads to a function that is not composable and has the body. -/
  declared : ∃ function, file.follow? path = some (.ofFunction function) ∧
    ¬ IsComposable function ∧ function.body = some body
  /-- The innermost class around the function is an activity or a fragment. -/
  inside : ∃ enclosing, file.enclosingClass? path = some enclosing ∧
    IsActivityOrFragment file enclosing
  /-- The file imports the factory. -/
  imported : file.Imports ["com", "arkivanov", "decompose", "defaultComponentContext"]

/-- A call that is the first of its name is one of the calls and has the name. -/
theorem IsFirst.mem {name : String} {block : Block} {call : Call}
    (first : IsFirst name block call) : call ∈ block.preorder ∧ call.callee = name :=
  ⟨List.mem_of_find?_eq_some first, by simpa using List.find?_some first⟩

/-- A block that makes a call of a name has a first one. -/
theorem exists_isFirst {name : String} {block : Block} {call : Call}
    (made : call ∈ block.preorder) (named : call.callee = name) :
    ∃ first, IsFirst name block first := by
  have found : (block.preorder.find? (·.callee = name)).isSome = true :=
    List.find?_isSome.mpr ⟨call, made, by simpa using named⟩
  exact Option.isSome_iff_exists.mp found

/-- There is at most one first call of a name. -/
theorem IsFirst.unique {name : String} {block : Block} {call other : Call}
    (first : IsFirst name block call) (alsoFirst : IsFirst name block other) : call = other :=
  Option.some.inj (first.symm.trans alsoFirst)

/-- A function that is not composable creates a component context in composition exactly when its
first `setContent` call leaks. -/
theorem exists_created_iff {function : FunctionDeclaration} {body : Block}
    (plain : ¬ IsComposable function) (hasBody : function.body = some body) :
    (∃ call, CreatesInComposition function call) ↔
      ∃ entry, IsFirst "setContent" body entry ∧ ∃ call, LeaksThrough body entry call := by
  constructor
  · intro creates
    obtain ⟨call, created⟩ := creates
    cases created with
    | composable carries => exact absurd carries plain
    | @setContent own lambda entry _ isBody entered first found =>
      obtain rfl := Option.some.inj (hasBody.symm.trans isBody)
      exact ⟨entry, entered, call,
        ⟨entered.mem.1, entered.mem.2, ⟨lambda, first, found.mem.1⟩, found.mem.2⟩⟩
  · intro leaks
    obtain ⟨entry, entered, call, leak⟩ := leaks
    obtain ⟨lambda, first, composed⟩ := leak.composed
    obtain ⟨created, found⟩ := exists_isFirst composed leak.creates
    exact ⟨created, .setContent plain hasBody entered first found⟩

/-- A call that creates a component context in a function that is not composable is in the first
lambda of a `setContent` call. -/
theorem CreatesInComposition.leaksThrough {function : FunctionDeclaration} {body : Block}
    {call : Call} (created : CreatesInComposition function call)
    (plain : ¬ IsComposable function) (hasBody : function.body = some body) :
    ∃ entry, LeaksThrough body entry call := by
  cases created with
  | composable carries => exact absurd carries plain
  | @setContent own lambda entry _ isBody entered first found =>
    obtain rfl := Option.some.inj (hasBody.symm.trans isBody)
    exact ⟨entry, entered.mem.1, entered.mem.2, ⟨lambda, first, found.mem.1⟩, found.mem.2⟩

/-- The finding of the rule at the declaration that a path leads to. -/
def foundAt? (file : File) (path : List Nat) : Option Finding :=
  (file.visitAt? path).bind (answer? file)

/-- The findings of the rule are those at the declarations of a file, in order. -/
theorem check_findings (id : String) (file : File) :
    (RuleSet.check ⟨id, [rule], []⟩ file).findings = file.paths.filterMap (foundAt? file) := by
  have answers : (fun visit => (rule.visit file visit).findings) =
      fun visit => (answer? file visit).toList := funext (visit_findings file)
  rw [RuleSet.check_single, answers, ← List.filterMap_eq_flatMap_toList, File.visits_eq,
    List.filterMap_append, List.filterMap_filterMap]
  exact List.append_nil _

/-- At a function inside a class the finding is that of the call by which the function leaks. -/
theorem foundAt?_eq_some_iff {file : File} {path : List Nat} {function : FunctionDeclaration}
    {enclosing : ClassDeclaration} (leads : file.follow? path = some (.ofFunction function))
    (inside : file.enclosingClass? path = some enclosing) (finding : Finding) :
    foundAt? file path = some finding ↔
      ∃ call, Leaks file enclosing function call ∧ finding = findingAt file call := by
  have visited : file.visitAt? path = some (.ofFunction (some enclosing) function) :=
    File.visitAt?_eq_ofFunction_iff.mpr ⟨leads, inside⟩
  rw [foundAt?, visited, Option.bind_some, answer?_ofFunction_iff]

section MayLeak

variable {file : File} {path : List Nat} {body : Block}

/-- What is found at a function that is not composable is a leak through `setContent`. -/
theorem MayLeakThroughContent.exists_leak (mayLeak : MayLeakThroughContent file path body)
    {finding : Finding} (found : foundAt? file path = some finding) :
    ∃ entry call, LeaksThrough body entry call ∧ finding = findingAt file call := by
  obtain ⟨function, leads, plain, hasBody⟩ := mayLeak.declared
  obtain ⟨enclosing, inside, _⟩ := mayLeak.inside
  obtain ⟨call, leak, same⟩ := (foundAt?_eq_some_iff leads inside finding).mp found
  obtain ⟨entry, through⟩ := leak.created.leaksThrough plain hasBody
  exact ⟨entry, call, through, same⟩

/-- Something is found at a function that is not composable exactly when its first `setContent`
call leaks. -/
theorem MayLeakThroughContent.isSome_foundAt?_iff (mayLeak : MayLeakThroughContent file path body) :
    (foundAt? file path).isSome ↔
      ∃ entry, IsFirst "setContent" body entry ∧ ∃ call, LeaksThrough body entry call := by
  obtain ⟨function, leads, plain, hasBody⟩ := mayLeak.declared
  obtain ⟨enclosing, inside, host⟩ := mayLeak.inside
  rw [← exists_created_iff plain hasBody, Option.isSome_iff_exists]
  simp only [foundAt?_eq_some_iff leads inside]
  constructor
  · intro found
    obtain ⟨_, call, leak, _⟩ := found
    exact ⟨call, leak.created⟩
  · intro creates
    obtain ⟨call, created⟩ := creates
    exact ⟨_, call, ⟨host, mayLeak.imported, created⟩, rfl⟩

end MayLeak

/-- The rule has at most one finding for a function, and in an activity or a fragment the finding
for a function that is not composable is at a call that leaks through `setContent`. There is one
exactly when the first `setContent` call leaks; so a leak is missed exactly when the first
`setContent` call leaks nothing and another one leaks. -/
theorem findings_of_first_entry (id : String) (file : File) :
    file.EnumeratedBy file.paths ∧
      ∃ found : List Nat → Option Finding,
        (RuleSet.check ⟨id, [rule], []⟩ file).findings = file.paths.filterMap found ∧
        ∀ path body, MayLeakThroughContent file path body →
          (∀ finding, found path = some finding →
            ∃ entry call, LeaksThrough body entry call ∧ finding = findingAt file call) ∧
          ((found path).isSome ↔
            ∃ entry, IsFirst "setContent" body entry ∧ ∃ call, LeaksThrough body entry call) ∧
          ((found path = none ∧ ∃ entry call, LeaksThrough body entry call) ↔
            ∃ first, IsFirst "setContent" body first ∧
              (∀ call, ¬ LeaksThrough body first call) ∧
              ∃ other call, LeaksThrough body other call) := by
  refine ⟨file.enumeratedBy_paths, foundAt? file, check_findings id file, ?_⟩
  intro path body mayLeak
  have firstLeaks := mayLeak.isSome_foundAt?_iff
  refine ⟨fun finding => mayLeak.exists_leak, firstLeaks, ?_⟩
  constructor
  · intro missed
    obtain ⟨unreported, other, call, leak⟩ := missed
    obtain ⟨first, isFirst⟩ := exists_isFirst leak.entered leak.starts
    refine ⟨first, isFirst, ?_, other, call, leak⟩
    intro own ownLeak
    have reported := firstLeaks.mpr ⟨first, isFirst, own, ownLeak⟩
    rw [unreported] at reported
    cases reported
  · intro behind
    obtain ⟨first, isFirst, harmless, leak⟩ := behind
    refine ⟨?_, leak⟩
    rw [← Option.not_isSome_iff_eq_none, firstLeaks]
    intro leaks
    obtain ⟨entry, alsoFirst, call, through⟩ := leaks
    rw [← isFirst.unique alsoFirst] at through
    exact harmless call through

/-- A `setContent` call with an empty lambda. -/
def emptyEntry : Call :=
  ⟨"setContent", ⟨122, 136, 5, 20⟩, [], [⟨⟨133, 136, 5, 31⟩, []⟩]⟩

/-- A call of the factory. -/
def creation : Call := ⟨"defaultComponentContext", ⟨151, 176, 6, 15⟩, [], []⟩

/-- A `setContent` call with a lambda that calls the factory. -/
def leakingEntry : Call :=
  ⟨"setContent", ⟨138, 178, 6, 2⟩, [], [⟨⟨149, 178, 6, 13⟩, [creation]⟩]⟩

/-- An activity with a function that makes some calls. -/
def activityFile (calls : List Call) : File where
  path := "Main1.kt"
  package := some "a.b"
  imports := [⟨.plain ["com", "arkivanov", "decompose", "defaultComponentContext"],
    ⟨12, 66, 2, 1⟩⟩]
  declarations := [.ofClass
    { name := "Main"
      nameSpan := ⟨74, 78, 4, 7⟩
      span := ⟨68, 182, 4, 1⟩
      kind := .plain
      modifiers := []
      annotations := []
      supertypes := [⟨⟨["AppCompatActivity"]⟩, ⟨81, 100, 4, 14⟩⟩]
      parameters := [] }
    [.ofFunction
      { name := "f0"
        nameSpan := ⟨109, 111, 5, 7⟩
        span := ⟨105, 180, 5, 3⟩
        modifiers := []
        annotations := []
        body := some ⟨⟨120, 180, 5, 18⟩, calls⟩ }]]
  span := ⟨0, 183, 1, 1⟩

/-- The function in the activity may leak through `setContent`. -/
theorem activityFile_mayLeak (calls : List Call) :
    MayLeakThroughContent (activityFile calls) [0, 0] ⟨⟨120, 180, 5, 18⟩, calls⟩ where
  declared := by
    refine ⟨_, rfl, ?_, rfl⟩
    intro carries
    obtain ⟨mark, listed, _⟩ := carries
    cases listed
  inside := by
    refine ⟨_, rfl, ["AppCompatActivity"], "AppCompatActivity", ⟨⟨_, rfl, ?_⟩, ?_⟩, rfl, .inl ?_⟩
    · exact ⟨_, List.mem_cons_self, rfl⟩
    · exact .singleton _
    · decide
  imported := ⟨_, List.mem_cons_self, rfl⟩

/-- A function that makes only the second of the two calls leaks by it. -/
theorem leakingEntry_leaks (span : Span) :
    LeaksThrough ⟨span, [leakingEntry]⟩ leakingEntry creation where
  entered := List.mem_cons_self
  starts := rfl
  composed := ⟨_, rfl, List.mem_cons_self⟩
  creates := rfl

/-- The leak is found when the call that leaks is the only `setContent` call. -/
theorem only_entry_found :
    MayLeakThroughContent (activityFile [leakingEntry]) [0, 0]
        ⟨⟨120, 180, 5, 18⟩, [leakingEntry]⟩ ∧
      ∃ found : List Nat → Option Finding,
        (RuleSet.check ⟨"", [rule], []⟩ (activityFile [leakingEntry])).findings =
          (activityFile [leakingEntry]).paths.filterMap found ∧ (found [0, 0]).isSome := by
  obtain ⟨_, found, findings, each⟩ := findings_of_first_entry "" (activityFile [leakingEntry])
  have mayLeak := activityFile_mayLeak [leakingEntry]
  refine ⟨mayLeak, found, findings, (each _ _ mayLeak).2.1.mpr ?_⟩
  exact ⟨leakingEntry, rfl, creation, leakingEntry_leaks _⟩

/-- The leak is missed when another `setContent` call, whose lambda is empty, comes first. -/
theorem second_entry_missed :
    MayLeakThroughContent (activityFile [emptyEntry, leakingEntry]) [0, 0]
        ⟨⟨120, 180, 5, 18⟩, [emptyEntry, leakingEntry]⟩ ∧
      LeaksThrough ⟨⟨120, 180, 5, 18⟩, [emptyEntry, leakingEntry]⟩ leakingEntry creation ∧
      (RuleSet.check ⟨"", [rule], []⟩ (activityFile [emptyEntry, leakingEntry])).findings = [] := by
  have mayLeak := activityFile_mayLeak [emptyEntry, leakingEntry]
  have leaks : LeaksThrough ⟨⟨120, 180, 5, 18⟩, [emptyEntry, leakingEntry]⟩
      leakingEntry creation :=
    { leakingEntry_leaks ⟨120, 180, 5, 18⟩ with
      entered := List.mem_cons_of_mem _ List.mem_cons_self }
  refine ⟨mayLeak, leaks, ?_⟩
  have function : foundAt? (activityFile [emptyEntry, leakingEntry]) [0, 0] = none := by
    rw [← Option.not_isSome_iff_eq_none, mayLeak.isSome_foundAt?_iff]
    intro reported
    obtain ⟨entry, isFirst, call, leak⟩ := reported
    have empty : IsFirst "setContent" ⟨⟨120, 180, 5, 18⟩, [emptyEntry, leakingEntry]⟩
        emptyEntry := rfl
    obtain rfl := empty.unique isFirst
    obtain ⟨lambda, first, composed⟩ := leak.composed
    cases first
    cases composed
  rw [check_findings]
  show List.filterMap _ [[0, 0], [0]] = []
  rw [List.filterMap_cons, function]
  rfl

end KotlinLint.ContextLeak
