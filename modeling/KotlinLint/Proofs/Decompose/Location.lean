import KotlinLint.File.OfTree
import KotlinLint.Proofs.Call.Correspondence
import KotlinLint.Proofs.Call.Origin
import KotlinLint.Proofs.Call.Preorder
import KotlinLint.Proofs.ContextLeak
import KotlinLint.Proofs.Declaration.Origin
import KotlinLint.Proofs.Decompose
import KotlinLint.Proofs.DiscriminatorClash.Sighting

/-!
# Where findings point

Spans go from the nodes of a tree through declarations and calls into findings. A finding in the
file of a tree has the range of one node of the tree: a leak that of the call expression, inside
the body of the function, by which the function leaks, and a clash that of the name of the class
that clashes (`Decompose.findings_point_to_nodes`).
-/

namespace KotlinLint

/-- Whether a location is the range of a node of a tree that was made for a path. -/
structure Location.IsRangeOf (location : Location) (path : String) (node : Node) : Prop where
  /-- The file is that of the path. -/
  file : location.file = path
  /-- The range starts where the node does. -/
  start : location.offset = node.label.start
  /-- The range stops where the node does. -/
  stop : location.offset + location.length = node.label.stop
  /-- The line is that of the node, counted from one. -/
  line : location.line = node.label.row + 1
  /-- The column is that of the node, counted from one. -/
  column : location.column = node.label.column + 1

/-- The location of the span of a node is the range of the node. -/
theorem Location.isRangeOf_ofSpan (path : String) {node : Node}
    (ordered : node.label.start ≤ node.label.stop) :
    (Location.ofSpan path node.span).IsRangeOf path node where
  file := rfl
  start := rfl
  stop := Nat.add_sub_cancel' ordered
  line := rfl
  column := rfl

/-- Whether a call expression in the body of a function of a tree is read as a call. -/
structure FunctionDeclaration.CallsAt (source : Source) (root : Node)
    (function : FunctionDeclaration) (call : Call) (expression : Node) : Prop where
  /-- The expression is inside the body of the function declaration. -/
  inside : ∃ declared body, root.Contains declared ∧ declared.kind = "function_declaration" ∧
    declared.Writes source (.ofFunction function) ∧
    declared.childOfKind? ["function_body", "block"] = some body ∧ body.Encloses expression
  /-- The expression is a call expression. -/
  isCall : expression.IsCall
  /-- The expression is read as the call. -/
  reads : Call.ofNode source expression = [call]

/-- Whether a node of the tree of a text holds the name of a class. -/
structure ClassDeclaration.NamedBy (text : String) (root : Node)
    (declaration : ClassDeclaration) (name : Node) : Prop where
  /-- The node is the name node of the class declaration. -/
  declared : ∃ declared, root.Contains declared ∧ declared.kind = "class_declaration" ∧
    declared.Writes (.ofString text) (.ofClass declaration.toClassHead declaration.members) ∧
    declared.nameNode? = some name
  /-- The text in the range of the node is the name, apart from backquotes at its ends. -/
  spelled : ∃ start stop : text.Pos, start.offset.byteIdx = name.label.start ∧
    stop.offset.byteIdx = name.label.stop ∧
    Text.IsStripped (· == '\x60') (text.extract start stop).toList declaration.name.toList

namespace ContextLeak

variable {file : File}

/-- The call by which a function leaks is one in its body. -/
theorem CreatesInComposition.exists_body {function : FunctionDeclaration} {call : Call}
    (created : CreatesInComposition function call) :
    ∃ body, function.body = some body ∧ call ∈ body.preorder ∧
      call.callee = "defaultComponentContext" := by
  have listed : ∀ {name : String} {block : Block} {found : Call}, IsFirst name block found →
      found ∈ block.preorder ∧ found.callee = name := by
    intro name block found isFirst
    have named := List.find?_some isFirst
    exact ⟨List.mem_of_find?_eq_some isFirst, of_decide_eq_true named⟩
  cases created with
  | @composable body _ hasBody isFirst => exact ⟨body, hasBody, listed isFirst⟩
  | @setContent body lambda entry _ hasBody isEntry first isFirst =>
    have inLambda := Call.preorder_subset_of_head? first (listed isFirst).1
    exact ⟨body, hasBody, Block.preorder_subset body (listed isEntry).1 inLambda,
      (listed isFirst).2⟩

/-- What the rule finds are leaks of functions that it visits. -/
theorem exists_leak_of_mem_findings {finding : Finding}
    (found : finding ∈ (rule.visitAll file).findings) :
    ∃ place enclosing function call,
      file.visitAt? place = some (.ofFunction (some enclosing) function) ∧
        Leaks file enclosing function call ∧ finding = findingAt file call := by
  rw [Rule.visitAll, Report.concat, List.flatMap_map, List.mem_flatMap, File.visits_eq] at found
  obtain ⟨visit, made, answered⟩ := found
  rw [visit_findings, Option.mem_toList] at answered
  obtain ⟨function, enclosing, rfl⟩ := ofFunction_of_answer? answered
  obtain ⟨call, leak, same⟩ := (answer?_ofFunction_iff file enclosing function finding).mp answered
  rcases List.mem_append.mp made with placed | last
  · obtain ⟨place, _, visited⟩ := List.mem_filterMap.mp placed
    exact ⟨place, enclosing, function, call, visited, leak, same⟩
  · cases List.mem_singleton.mp last

end ContextLeak

namespace DiscriminatorClash

/-- What the rule finds are classes that offend. -/
theorem exists_offender_of_mem_findings {file : File} {discriminator : String} {finding : Finding}
    (found : finding ∈ ((rule discriminator).visitAll file).findings) :
    ∃ place candidate, file.classAt? place = some candidate ∧
      Offends file discriminator candidate ∧
      finding = findingFor file discriminator candidate := by
  have sighted := check_findings file discriminator ""
  have alone : (RuleSet.check ⟨"", [rule discriminator], []⟩ file).findings =
      ((rule discriminator).visitAll file).findings :=
    RuleSet.check_push_findings "" (rule discriminator) file
  rw [← alone, sighted] at found
  obtain ⟨sighting, isSighting, rfl⟩ := List.mem_map.mp found
  obtain ⟨leads, offends, _⟩ := (mem_sightings_iff file discriminator sighting).mp isSighting
  exact ⟨sighting.path, sighting.candidate, leads, offends, rfl⟩

end DiscriminatorClash

section Tree

variable {path text : String} {root : Node}

/-- A function of the file of a tree calls at an expression of the tree. -/
theorem exists_expression_of_created {place : List Nat} {enclosing : ClassDeclaration}
    {function : FunctionDeclaration} {call : Call} {source : Source}
    (visited : (File.ofTree path source root).visitAt? place =
      some (.ofFunction (some enclosing) function))
    (created : ContextLeak.CreatesInComposition function call) :
    ∃ expression, root.Contains expression ∧ function.CallsAt source root call expression := by
  have leads := (File.visitAt?_eq_ofFunction_iff.mp visited).1
  obtain ⟨declared, around, writes⟩ := Declaration.exists_node_of_follow? leads
  obtain ⟨kind, bodies⟩ := writes.ofFunction
  obtain ⟨block, hasBlock, listed, _⟩ := created.exists_body
  rw [hasBlock] at bodies
  obtain ⟨body, isBody, rfl⟩ := Option.map_eq_some_iff.mp bodies.symm
  obtain ⟨expression, inside, isCall, reads⟩ := Block.exists_expression_of_mem_preorder listed
  have isChild : body ∈ declared.children := List.mem_of_find?_eq_some isBody
  have inDeclared := (Node.encloses_child isChild).contains.trans inside.contains
  exact ⟨expression, around.trans inDeclared,
    ⟨declared, body, around, kind, writes, isBody, inside⟩, isCall, reads⟩

/-- A class of the file of a tree is named by a node of the tree, which has the span of the
name. -/
theorem exists_name_of_classAt? (placed : root.Everywhere (Node.PlacedIn text))
    {place : List Nat} {declaration : ClassDeclaration}
    (leads : (File.ofTree path (.ofString text) root).classAt? place = some declaration) :
    ∃ name, root.Contains name ∧ declaration.NamedBy text root name ∧
      declaration.nameSpan = name.span := by
  obtain ⟨head, members⟩ := declaration
  have follows := Declaration.classAt?_eq_some_iff.mp leads
  obtain ⟨declared, around, writes⟩ := Declaration.exists_node_of_follow? follows
  obtain ⟨kind, name, isName, spelled, span⟩ := writes.ofClass
  have isChild : name ∈ declared.children := List.mem_of_find?_eq_some isName
  have inTree : root.Contains name := around.trans (Node.encloses_child isChild).contains
  obtain ⟨steps, reached⟩ := inTree
  have here := placed steps name reached
  refine ⟨name, ⟨steps, reached⟩, ⟨⟨declared, around, kind, writes, isName⟩,
    ⟨_, here.starts⟩, ⟨_, here.stops⟩, rfl, rfl, ?_⟩, span⟩
  have stripped := Text.isStripped_stripWhile (· == Text.backquote)
    ((Source.ofString text).text name.label).toList
  have unquoted : head.name.toList =
      Text.unquote ((Source.ofString text).text name.label).toList := by
    rw [spelled, Node.nameText, String.toList_ofList]
  rw [unquoted, ← here.text_eq]
  exact stripped

end Tree

namespace Decompose

/-- What a finding of the provided rules points to in the tree of a text. -/
inductive PointsTo (config : Config) (path text : String) (root : Node) (finding : Finding)
    (node : Node) : Prop where
  /-- A leak points to the call expression by which a visited function leaks. -/
  | leak {place : List Nat} {enclosing : ClassDeclaration} {function : FunctionDeclaration}
      {call : Call} : finding.rule = "DecomposeComponentContextRule" →
      (File.ofTree path (.ofString text) root).visitAt? place =
        some (.ofFunction (some enclosing) function) →
      ContextLeak.Leaks (File.ofTree path (.ofString text) root) enclosing function call →
      call.callee = "defaultComponentContext" →
      function.CallsAt (.ofString text) root call node →
      PointsTo config path text root finding node
  /-- A clash points to the name of a class that clashes with the configured discriminator. -/
  | clash {place : List Nat} {declaration : ClassDeclaration} {discriminator : String} :
      finding.rule = "SerializableDiscriminatorRule" →
      DiscriminatorClash.discriminator? config = .ok discriminator →
      (File.ofTree path (.ofString text) root).classAt? place = some declaration →
      DiscriminatorClash.Offends (File.ofTree path (.ofString text) root) discriminator
        declaration →
      declaration.NamedBy text root node → PointsTo config path text root finding node

variable {config : Config} {set : RuleSet} {path text : String} {root : Node} {finding : Finding}

/-- A finding points to a node of the tree, and has its range. -/
theorem exists_node_of_mem_findings (accepted : ruleSet config = .ok set)
    (placed : root.Everywhere (Node.PlacedIn text))
    (found : finding ∈ (set.check (File.ofTree path (.ofString text) root)).findings) :
    ∃ node, root.Contains node ∧ finding.location.IsRangeOf path node ∧
      PointsTo config path text root finding node := by
  obtain ⟨own, severity, rfl, isOwn⟩ := exists_finding_of_rule accepted found
  rcases isOwn with isOwn | ⟨discriminator, isSet, isOwn⟩
  · obtain ⟨place, enclosing, function, call, visited, leak, rfl⟩ :=
      ContextLeak.exists_leak_of_mem_findings isOwn
    obtain ⟨expression, inTree, calls⟩ := exists_expression_of_created visited leak.created
    obtain ⟨_, _, _, named⟩ := leak.created.exists_body
    obtain ⟨steps, reached⟩ := inTree
    -- The finding has the span of the call, and the call that of its expression.
    have range := Location.isRangeOf_ofSpan path (placed steps expression reached).ordered
    rw [← calls.isCall.span_eq calls.reads] at range
    exact ⟨expression, ⟨steps, reached⟩, range, .leak rfl visited leak named calls⟩
  · obtain ⟨place, declaration, leads, offends, rfl⟩ :=
      DiscriminatorClash.exists_offender_of_mem_findings isOwn
    obtain ⟨name, inTree, names, span⟩ := exists_name_of_classAt? placed leads
    obtain ⟨steps, reached⟩ := inTree
    have range := Location.isRangeOf_ofSpan path (placed steps name reached).ordered
    rw [← span] at range
    exact ⟨name, ⟨steps, reached⟩, range, .clash rfl isSet leads offends names⟩

/-- A finding in the file of a tree points into the file: it has the path of the file and a range
inside the range of the file, which is that of the call expression by which a function leaks or of
the name of a class that clashes. -/
theorem findings_point_to_nodes (accepted : ruleSet config = .ok set)
    (placed : root.Everywhere (Node.PlacedIn text))
    (found : finding ∈ (set.check (File.ofTree path (.ofString text) root)).findings) :
    finding.location.file = path ∧
      (File.ofTree path (.ofString text) root).span.start ≤ finding.location.offset ∧
      finding.location.offset + finding.location.length ≤
        (File.ofTree path (.ofString text) root).span.stop ∧
      ∃ node, root.Contains node ∧ finding.location.IsRangeOf path node ∧
        PointsTo config path text root finding node := by
  obtain ⟨node, inTree, range, points⟩ := exists_node_of_mem_findings accepted placed found
  obtain ⟨starts, stops⟩ := inTree.within placed
  refine ⟨range.file, ?_, ?_, node, inTree, range, points⟩
  · rw [range.start]
    exact starts
  · rw [range.stop]
    exact stops

/-- A text that declares a class with the constructor property `type` in a root. -/
def clashText : String :=
  "import kotlinx.serialization.Serializable\n" ++
    "@Serializable sealed class E \x7b @Serializable class \x60A\x60(val type: Int) : E \x7d"

/-- A node of the second line of the text. -/
def nodeOf (kind : String) (named : Bool) (start stop : Nat) (children : List Node) : Node :=
  ⟨⟨kind, named, start, stop, 1, start - 42⟩, children⟩

/-- The tree of the text. -/
def clashTree : Node :=
  ⟨⟨"source_file", true, 0, 117, 0, 0⟩,
    [⟨⟨"import", true, 0, 41, 0, 0⟩, []⟩,
      nodeOf "class_declaration" true 42 117
        [nodeOf "modifiers" true 42 62
          [nodeOf "annotation" true 42 55 [],
            nodeOf "class_modifier" true 56 62 [nodeOf "sealed" false 56 62 []]],
        nodeOf "class" false 63 68 [],
        nodeOf "identifier" true 69 70 [],
        nodeOf "class_body" true 71 117
          [nodeOf "\x7b" false 71 72 [],
            nodeOf "class_declaration" true 73 115
              [nodeOf "modifiers" true 73 86 [nodeOf "annotation" true 73 86 []],
                nodeOf "class" false 87 92 [],
                nodeOf "identifier" true 93 96 [],
                nodeOf "primary_constructor" true 96 111
                  [nodeOf "class_parameter" true 97 110
                    [nodeOf "val" false 97 100 [], nodeOf "identifier" true 101 105 []]]],
            nodeOf "\x7d" false 116 117 []]]]⟩

/-- The finding in the file of the tree. -/
def clashFinding : Finding where
  rule := "SerializableDiscriminatorRule"
  severity := .codeSmell
  location := { file := "Events.kt", line := 2, column := 52, offset := 93, length := 3 }
  message := "Do not name properties in polymorphic serializable classes as a class " ++
    "discriminator: type"
  docRef := some
    "https://github.com/Kotlin/kotlinx.serialization/blob/master/docs/polymorphism.md"

/-- The finding points to the name between backquotes. -/
theorem clashFinding_points_to_node : ruleSet {} = .ok defaultSet ∧
    clashTree.Everywhere (Node.PlacedIn clashText) ∧
    clashFinding ∈
      (defaultSet.check (File.ofTree "Events.kt" (.ofString clashText) clashTree)).findings ∧
    clashTree.label.start ≤ 93 ∧ 93 + 3 ≤ clashTree.label.stop ∧
    ∃ node, clashTree.Contains node ∧ clashFinding.location.IsRangeOf "Events.kt" node ∧
      PointsTo {} "Events.kt" clashText clashTree clashFinding node := by
  have placed : clashTree.Everywhere (Node.PlacedIn clashText) := by decide +kernel
  have found : clashFinding ∈
      (defaultSet.check (File.ofTree "Events.kt" (.ofString clashText) clashTree)).findings := by
    decide +kernel
  have points := findings_point_to_nodes ruleSet_default placed found
  exact ⟨ruleSet_default, placed, found, points.2⟩

end Decompose

end KotlinLint
