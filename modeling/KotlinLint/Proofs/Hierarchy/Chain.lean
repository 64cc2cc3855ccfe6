import KotlinLint.Proofs.Hierarchy.FirstClass
import KotlinLint.Proofs.Hierarchy.Search
import KotlinLint.Proofs.Query
import Mathlib.Data.List.Chain

/-!
# Chains of supertypes

A class inherits a name when a chain of names leads to it: the chain begins with a supertype of the
class, and each further name is a supertype of the class that stands for the one before. The
search for a name ending finds it exactly when such a chain ends with a name that has it
(`Hierarchy.inheritsEnding_iff_chain_getLast`), and it ends whatever circles the chains may have
(`Hierarchy.inheritsEnding_iff_chain`).
-/

namespace KotlinLint.Hierarchy

/-- Whether names follow each other as supertypes, beginning with a supertype of a class. -/
structure IsSupertypeChain (file : File) (declaration : ClassDeclaration) (names : List String) :
    Prop where
  /-- The chain begins with a supertype of the class. -/
  begins : ∃ first, names.head? = some first ∧ declaration.HasSupertype first
  /-- Each further name is a supertype of the class that stands for the name before it. -/
  continues : names.IsChain fun name next =>
    ∃ parent, file.StandsFor name parent ∧ parent.HasSupertype next

section Chain

variable {file : File} {declaration : ClassDeclaration}

/-- A chain is continued by the supertypes of the class that stands for its last name. -/
theorem IsSupertypeChain.concat {names : List String} {name next : String}
    {parent : ClassDeclaration} (chain : IsSupertypeChain file declaration names)
    (last : names.getLast? = some name) (stands : file.StandsFor name parent)
    (supertype : parent.HasSupertype next) :
    IsSupertypeChain file declaration (names ++ [next]) := by
  obtain ⟨first, head, direct⟩ := chain.begins
  refine ⟨⟨first, ?_, direct⟩, chain.continues.append (.singleton next) ?_⟩
  · rw [List.head?_append, head, Option.some_or]
  · intro before isLast after isFirst
    obtain rfl := Option.some.inj (last.symm.trans isLast)
    obtain rfl := Option.some.inj isFirst
    exact ⟨parent, stands, supertype⟩

/-- What is reached from the first name of a chain is reached from what its last name is. -/
theorem reached_getLast {start names : List String} {first last : String}
    (continues : names.IsChain fun name next =>
      ∃ parent, file.StandsFor name parent ∧ parent.HasSupertype next)
    (head : names.head? = some first) (isLast : names.getLast? = some last)
    (reached : (ofFile file).Reached start first) : (ofFile file).Reached start last := by
  induction names generalizing first with
  | nil => cases head
  | cons name rest ih =>
    obtain rfl := Option.some.inj head
    cases rest with
    | nil =>
      obtain rfl := Option.some.inj isLast
      exact reached
    | cons next rest =>
      obtain ⟨⟨parent, stands, supertype⟩, continues⟩ := List.isChain_cons_cons.mp continues
      have found := (get?_ofFile_eq_some_iff file name parent).mpr stands
      have named := (parent.mem_supertypeNames_iff next).mpr supertype
      rw [List.getLast?_cons_cons] at isLast
      exact ih continues rfl isLast (.through reached found named)

/-- A class inherits the names with which chains end. -/
theorem inherits_iff_chain (name : String) : (ofFile file).Inherits declaration name ↔
    ∃ names, IsSupertypeChain file declaration names ∧ names.getLast? = some name := by
  constructor
  · intro inherited
    induction inherited with
    | @start name direct =>
      have named := (declaration.mem_supertypeNames_iff name).mp direct
      exact ⟨[name], ⟨⟨name, rfl, named⟩, .singleton name⟩, rfl⟩
    | @through _ supertype parent _ found listed ih =>
      obtain ⟨names, chain, last⟩ := ih
      have stands := (get?_ofFile_eq_some_iff file _ _).mp found
      have named := (parent.mem_supertypeNames_iff supertype).mp listed
      exact ⟨_, chain.concat last stands named, List.getLast?_concat⟩
  · intro chained
    obtain ⟨names, chain, last⟩ := chained
    obtain ⟨first, head, direct⟩ := chain.begins
    have listed := (declaration.mem_supertypeNames_iff first).mpr direct
    exact reached_getLast chain.continues head last (.start listed)

end Chain

/-- A class of a file inherits from a type whose name has an ending exactly when a chain of
supertypes ends with such a name. -/
theorem inheritsEnding_iff_chain_getLast (file : File) (declaration : ClassDeclaration)
    (ending : String) : (ofFile file).inheritsEnding declaration ending = true ↔
      ∃ names last, IsSupertypeChain file declaration names ∧ names.getLast? = some last ∧
        ending.toList <:+ last.toList := by
  rw [inheritsEnding_iff]
  simp only [Text.endsWith_iff]
  constructor
  · intro found
    obtain ⟨name, inherited, ends⟩ := found
    obtain ⟨names, chain, last⟩ := (inherits_iff_chain name).mp inherited
    exact ⟨names, name, chain, last, ends⟩
  · intro found
    obtain ⟨names, name, chain, last, ends⟩ := found
    exact ⟨name, (inherits_iff_chain name).mpr ⟨names, chain, last⟩, ends⟩

/-- A class of a file inherits from a type whose name has an ending exactly when a chain of
supertypes ends with such a name. The search for it ends, after at most one step more than
supertypes are written in the class and in the classes of the file. -/
theorem inheritsEnding_iff_chain (file : File) (declaration : ClassDeclaration) (ending : String) :
    ((ofFile file).inheritsEnding declaration ending = true ↔
      ∃ names last, IsSupertypeChain file declaration names ∧ names.getLast? = some last ∧
        ending.toList <:+ last.toList) ∧
    (Search.start declaration).run (ofFile file) ending
        (declaration.supertypeNames.length + (ofFile file).supertypeCount + 1) =
      some ((ofFile file).inheritsEnding declaration ending) :=
  ⟨inheritsEnding_iff_chain_getLast file declaration ending,
    Search.run_start (ofFile file) declaration ending⟩

end KotlinLint.Hierarchy
