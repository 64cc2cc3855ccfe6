import KotlinLint.Proofs.Call.Expression

/-!
# Suffixes of calls

What suffixes add to a call is put together from what each of them adds
(`Call.suffixes_cons`, `Call.suffixes_append`), and bare tokens add nothing
(`Call.suffixes_named`).
-/

namespace KotlinLint

/-- The named children of a node. -/
def Node.namedChildren (node : Node) : List Node := node.children.filter (·.label.named)

namespace Call

namespace Parts

/-- Nothing is added by no parts. -/
theorem append_empty (parts : Parts) : parts ++ ({} : Parts) = parts :=
  congrArg₂ Parts.mk (List.append_nil _) (List.append_nil _)

/-- Parts are put together in any grouping. -/
theorem append_assoc (first second third : Parts) :
    first ++ second ++ third = first ++ (second ++ third) :=
  congrArg₂ Parts.mk (List.append_assoc ..) (List.append_assoc ..)

end Parts

variable (source : Source)

/-- What suffixes add is what the first adds and what the others add. -/
theorem suffixes_cons (node : Node) (rest : List Node) :
    suffixes source (node :: rest) = suffixes source [node] ++ suffixes source rest := by
  obtain ⟨label, children⟩ := node
  rw [suffixes, suffixes, suffixes, Parts.append_empty]

/-- Suffixes one after the other add their parts one after the other. -/
theorem suffixes_append (first second : List Node) :
    suffixes source (first ++ second) = suffixes source first ++ suffixes source second := by
  induction first with
  | nil => rw [List.nil_append, suffixes]; rfl
  | cons node rest ih =>
    rw [List.cons_append, suffixes_cons, ih, suffixes_cons source node rest, Parts.append_assoc]

/-- A bare token adds nothing to a call. -/
theorem suffixes_token {token : Node} (bare : token.label.named = false) :
    suffixes source [token] = {} := by
  obtain ⟨label, children⟩ := token
  have bare : label.named = false := bare
  rw [suffixes, suffixes, if_pos bare]
  rfl

/-- Only named suffixes add to a call. -/
theorem suffixes_named (nodes : List Node) :
    suffixes source (nodes.filter (·.label.named)) = suffixes source nodes := by
  induction nodes with
  | nil => rfl
  | cons node rest ih =>
    rw [suffixes_cons source node rest]
    by_cases named : node.label.named
    · rw [List.filter_cons, if_pos named, suffixes_cons, ih]
    · have bare : node.label.named = false := by simpa using named
      rw [List.filter_cons, if_neg named, ih, suffixes_token source bare]
      rfl

end Call

end KotlinLint
