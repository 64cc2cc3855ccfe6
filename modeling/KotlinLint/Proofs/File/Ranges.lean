import KotlinLint.File.OfTree
import KotlinLint.Proofs.Declaration.Ranges

/-!
# Ranges in a file

In the file of a tree whose nodes are in each other's ranges, all spans are in each other as well:
those of imports and declarations in that of the file, those of members and other parts in that of
their declaration, those of calls in those of what holds them (`File.nests_ofTree`).
-/

namespace KotlinLint

open Node

namespace File

/-- Whether the parts of a file nest as they do in the source. -/
structure Nests (source : Source) (root : Node) (file : File) : Prop where
  imports : ∀ directive ∈ file.imports, directive.span.Within file.span
  topLevel : Declaration.InLine file.span file.declarations
  /-- Declarations at any depth nest. -/
  declarations : ∀ place declaration,
    Declaration.follow? file.declarations place = some declaration →
      declaration.Nests source root

/-- The nodes that write imports are in the tree. -/
theorem contains_of_mem_importNodes {root node : Node} (listed : node ∈ importNodes root) :
    root.Contains node := by
  obtain ⟨entry, isEntry, inside⟩ := exists_root_of_mem_outermostIn _ listed
  exact Encloses.contains ⟨entry, List.mem_of_mem_filter isEntry, inside⟩

/-- The spans in the file of a tree nest as the source does, when the ranges of the tree do and
children are beside each other. -/
theorem nests_ofTree (path : String) (source : Source) {root : Node}
    (ranged : root.Everywhere Ranged) : (ofTree path source root).Nests source root := by
  constructor
  · intro directive listed
    obtain ⟨node, isNode, reads⟩ := List.mem_filterMap.mp listed
    obtain ⟨value, _, rfl⟩ := Option.map_eq_some_iff.mp reads
    exact (contains_of_mem_importNodes isNode).spanWithin ranged
  · exact Declaration.inLine_ofNodes source ranged
  · intro place declaration leads
    exact Declaration.nests_of_follow? ranged leads

/-- The text of a file with an annotation that the parser leaves beside its declaration. -/
def besideSource : Source :=
  .ofString "import a.B; @S class C : D \x7b fun f() \x7b g \x7b h() \x7d \x7d \x7d"

/-- The tree of the text. -/
def besideTree : Node :=
  Block.nodeOf "source_file" true 0 52
    [Block.nodeOf "import" true 0 10 [],
      Block.nodeOf ";" false 10 11 [],
      Block.nodeOf "annotation" true 12 14 [],
      Block.nodeOf "class_declaration" true 15 52
        [Block.nodeOf "class" false 15 20 [],
          Block.nodeOf "identifier" true 21 22 [],
          Block.nodeOf "delegation_specifiers" true 25 26
            [Block.nodeOf "delegation_specifier" true 25 26 []],
          Block.nodeOf "class_body" true 27 52
            [Block.nodeOf "function_declaration" true 29 50
              [Block.nodeOf "fun" false 29 32 [],
                Block.nodeOf "identifier" true 33 34 [],
                Block.nodeOf "function_body" true 37 50
                  [Block.nodeOf "call_expression" true 39 48
                    [Block.nodeOf "identifier" true 39 40 [],
                      Block.nodeOf "lambda_literal" true 41 48
                        [Block.nodeOf "call_expression" true 43 46
                          [Block.nodeOf "identifier" true 43 44 [],
                            Block.nodeOf "value_arguments" true 44 46 []]]]]]]]]

/-- The class of the file has the annotation, which stops before the class starts. -/
theorem besideTree_nests : besideTree.Everywhere Ranged ∧
    (ofTree "C.kt" besideSource besideTree).Nests besideSource besideTree ∧
    (ofTree "C.kt" besideSource besideTree).declarations.map (fun declaration =>
      (declaration.span.start, declaration.annotations.map (·.span.stop))) = [(15, [14])] := by
  have ranged : besideTree.Everywhere Ranged := by decide +kernel
  exact ⟨ranged, nests_ofTree _ _ ranged, by decide +kernel⟩

end File

end KotlinLint
