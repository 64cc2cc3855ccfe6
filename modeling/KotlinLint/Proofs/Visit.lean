import KotlinLint.Proofs.Path
import KotlinLint.Proofs.RuleSet
import Mathlib.Data.List.Basic

/-!
# Visits of declarations

Every declaration of a file is reached by one path. The paths of a file are listed so that each
comes after those to what is inside its declaration (`File.paths`), and the visits of a file are
those of the declarations on these paths, each function with the innermost class around it, and
then that of the file (`File.visits_eq`). What a rule alone finds in a file is what it answers
to these visits (`RuleSet.check_single`).
-/

namespace KotlinLint

namespace Declaration

mutual

/-- The paths from the members of a declaration to what is inside it. -/
def pathsBelow : Declaration → List (List Nat)
  | .ofClass _ members => paths members
  | .ofObject _ members => paths members
  | .ofFunction _ => []
  | .ofProperty _ => []

/-- The paths to the declarations of a list and to those inside them, each after the paths to
what is inside its declaration. -/
def paths : List Declaration → List (List Nat)
  | [] => []
  | declaration :: rest =>
    declaration.pathsBelow.map (0 :: ·) ++ [0] :: (paths rest).map Path.shift

end

/-- The paths below a declaration are those of its members. -/
theorem pathsBelow_eq (declaration : Declaration) :
    declaration.pathsBelow = paths declaration.members := by
  cases declaration with
  | ofClass head members => rw [pathsBelow, Declaration.members]
  | ofObject head members => rw [pathsBelow, Declaration.members]
  | ofFunction function => rw [pathsBelow, Declaration.members, paths]
  | ofProperty property => rw [pathsBelow, Declaration.members, paths]

/-- The class among some declarations and their members that a path leads to. -/
def classAt? (declarations : List Declaration) (path : List Nat) : Option ClassDeclaration :=
  match follow? declarations path with
  | some (.ofClass head members) => some ⟨head, members⟩
  | _ => none

/-- A path leads to the class that the declaration at its end declares. -/
theorem classAt?_eq_bind (declarations : List Declaration) (path : List Nat) :
    classAt? declarations path = (follow? declarations path).bind class? := by
  rw [classAt?]
  cases follow? declarations path with
  | none => rfl
  | some declaration => cases declaration <;> rfl

/-- A path leads to a class when the declaration at its end has the head and the members of the
class. -/
theorem classAt?_eq_some_iff {declarations : List Declaration} {path : List Nat}
    {declaration : ClassDeclaration} : classAt? declarations path = some declaration ↔
      follow? declarations path = some (.ofClass declaration.toClassHead declaration.members) := by
  rw [classAt?]
  constructor
  · intro leads
    split at leads
    · obtain rfl := Option.some.inj leads
      assumption
    · cases leads
  · intro leads
    rw [leads]

/-- The innermost class around the declaration that a path leads to. -/
def enclosingClass? : List Declaration → List Nat → Option ClassDeclaration
  | declarations, position :: next :: path =>
    declarations[position]?.bind fun declaration =>
      (enclosingClass? declaration.members (next :: path)).or declaration.class?
  | _, _ => none

/-- The visit of a declaration inside a class; objects and properties are not visited. -/
def visit? (enclosing : Option ClassDeclaration) : Declaration → Option Visit
  | ofClass head members => some (.ofClass ⟨head, members⟩)
  | ofFunction function => some (.ofFunction enclosing function)
  | ofObject _ _ => none
  | ofProperty _ => none

/-- The visit of the declaration that a path leads to, in a list inside a class. -/
def visitAt? (enclosing : Option ClassDeclaration) (declarations : List Declaration)
    (path : List Nat) : Option Visit :=
  (follow? declarations path).bind
    (visit? ((enclosingClass? declarations path).or enclosing))

section Cons

variable (enclosing : Option ClassDeclaration) (declaration : Declaration)
  (rest : List Declaration)

/-- The first declaration is visited inside the class that the list is in. -/
theorem visitAt?_first :
    visitAt? enclosing (declaration :: rest) [0] = declaration.visit? enclosing := rfl

/-- What is inside the first declaration is visited inside it when it is a class. -/
theorem visitAt?_cons_zero (position : Nat) (path : List Nat) :
    visitAt? enclosing (declaration :: rest) (0 :: position :: path) =
      visitAt? (declaration.class?.or enclosing) declaration.members (position :: path) := by
  rw [visitAt?, visitAt?, ← Option.or_assoc]
  rfl

/-- The other declarations are visited as without the first. -/
theorem visitAt?_shift (path : List Nat) :
    visitAt? enclosing (declaration :: rest) (Path.shift path) =
      visitAt? enclosing rest path := by
  match path with
  | [] => rfl
  | [position] => rfl
  | position :: next :: path => rfl

end Cons

/-- The empty path is not among the paths. -/
theorem nil_not_mem_paths (declarations : List Declaration) : [] ∉ paths declarations := by
  induction declarations with
  | nil => rw [paths]; exact List.not_mem_nil
  | cons declaration rest ih =>
    rw [paths]
    intro member
    rcases List.mem_append.mp member with member | member
    · obtain ⟨path, _, same⟩ := List.mem_map.mp member
      cases same
    · rcases List.mem_cons.mp member with same | member
      · cases same
      · obtain ⟨path, listed, same⟩ := List.mem_map.mp member
        cases path with
        | nil => exact ih listed
        | cons position path => cases same

mutual

/-- The visits of a declaration are those on its paths and then its own. -/
theorem visits_eq (enclosing : Option ClassDeclaration) : ∀ declaration : Declaration,
    declaration.visits enclosing =
      declaration.pathsBelow.filterMap
        (visitAt? (declaration.class?.or enclosing) declaration.members) ++
      (declaration.visit? enclosing).toList
  | .ofClass head members => by
    rw [visits, pathsBelow, visitsIn_eq (some ⟨head, members⟩) members]
    rfl
  | .ofObject head members => by
    rw [visits, pathsBelow, visitsIn_eq enclosing members, visit?, Option.toList_none,
      List.append_nil]
    rfl
  | .ofFunction function => rfl
  | .ofProperty property => rfl

/-- The visits of a list of declarations are those on its paths. -/
theorem visitsIn_eq (enclosing : Option ClassDeclaration) : ∀ declarations : List Declaration,
    visitsIn enclosing declarations =
      (paths declarations).filterMap (visitAt? enclosing declarations)
  | [] => rfl
  | declaration :: rest => by
    have inside : (declaration.pathsBelow.map (0 :: ·)).filterMap
        (visitAt? enclosing (declaration :: rest)) = declaration.pathsBelow.filterMap
          (visitAt? (declaration.class?.or enclosing) declaration.members) := by
      rw [List.filterMap_map]
      apply List.filterMap_congr
      intro path member
      cases path with
      | nil =>
        rw [pathsBelow_eq] at member
        exact absurd member (nil_not_mem_paths _)
      | cons position path => exact visitAt?_cons_zero enclosing declaration rest position path
    have later : ((paths rest).map Path.shift).filterMap
        (visitAt? enclosing (declaration :: rest)) =
          (paths rest).filterMap (visitAt? enclosing rest) := by
      rw [List.filterMap_map]
      exact List.filterMap_congr fun path _ => visitAt?_shift enclosing declaration rest path
    rw [visitsIn, visits_eq enclosing declaration, visitsIn_eq enclosing rest, paths,
      List.filterMap_append, inside, List.filterMap_cons, visitAt?_first, later,
      List.append_assoc]
    cases declaration.visit? enclosing <;> rfl

end

/-- A path leads to the first declaration, through it, or past it. -/
theorem mem_paths_cons_iff (declaration : Declaration) (rest : List Declaration)
    (path : List Nat) :
    path ∈ paths (declaration :: rest) ↔
      (∃ inner ∈ declaration.pathsBelow, path = 0 :: inner) ∨ path = [0] ∨
        ∃ later ∈ paths rest, path = Path.shift later := by
  rw [paths, List.mem_append, List.mem_cons, List.mem_map, List.mem_map]
  simp only [eq_comm]

mutual

/-- The paths below a declaration are those that lead somewhere from its members. -/
theorem mem_pathsBelow_iff : ∀ (declaration : Declaration) (path : List Nat),
    path ∈ declaration.pathsBelow ↔ (follow? declaration.members path).isSome
  | .ofClass head members, path => by
    rw [pathsBelow]
    exact mem_paths_iff members path
  | .ofObject head members, path => by
    rw [pathsBelow]
    exact mem_paths_iff members path
  | .ofFunction function, path => by
    rw [pathsBelow]
    cases path <;> simp [members, follow?, Path.follow?]
  | .ofProperty property, path => by
    rw [pathsBelow]
    cases path <;> simp [members, follow?, Path.follow?]

/-- The paths to declarations are those that lead somewhere. -/
theorem mem_paths_iff : ∀ (declarations : List Declaration) (path : List Nat),
    path ∈ paths declarations ↔ (follow? declarations path).isSome
  | [], path => by
    rw [paths]
    cases path <;> simp [follow?, Path.follow?]
  | declaration :: rest, [] => by
    simp [nil_not_mem_paths, follow?, Path.follow?]
  | declaration :: rest, [0] => by
    simp [mem_paths_cons_iff, follow?, Path.follow?_first]
  | declaration :: rest, 0 :: position :: path => by
    have below := mem_pathsBelow_iff declaration (position :: path)
    rw [follow?, Path.follow?_cons_zero, mem_paths_cons_iff]
    rw [follow?] at below
    rw [← below]
    constructor
    · intro member
      rcases member with ⟨inner, listed, same⟩ | same | ⟨later, _, same⟩
      · cases same
        exact listed
      · cases same
      · cases later <;> cases same
    · intro listed
      exact Or.inl ⟨position :: path, listed, rfl⟩
  | declaration :: rest, (position + 1) :: path => by
    have later := mem_paths_iff rest (position :: path)
    have shifted := Path.follow?_shift members declaration rest (position :: path)
    rw [Path.shift] at shifted
    rw [follow?] at later
    rw [follow?, shifted, ← later, mem_paths_cons_iff]
    constructor
    · intro member
      rcases member with ⟨inner, _, same⟩ | same | ⟨other, listed, same⟩
      · cases same
      · cases same
      · have agree : position :: path = other := Path.shift_injective same
        rw [agree]
        exact listed
    · intro listed
      exact Or.inr (Or.inr ⟨position :: path, listed, rfl⟩)

end

mutual

/-- The paths below a declaration are listed in the order of places. -/
theorem pathsBelow_pairwise : ∀ declaration : Declaration,
    declaration.pathsBelow.Pairwise Path.Before
  | .ofClass head members => by
    rw [pathsBelow]
    exact paths_pairwise members
  | .ofObject head members => by
    rw [pathsBelow]
    exact paths_pairwise members
  | .ofFunction function => by
    rw [pathsBelow]
    exact List.Pairwise.nil
  | .ofProperty property => by
    rw [pathsBelow]
    exact List.Pairwise.nil

/-- Paths are listed in the order of places. -/
theorem paths_pairwise : ∀ declarations : List Declaration,
    (paths declarations).Pairwise Path.Before
  | [] => by
    rw [paths]
    exact List.Pairwise.nil
  | declaration :: rest => by
    have inside : (declaration.pathsBelow.map (0 :: ·)).Pairwise Path.Before :=
      (pathsBelow_pairwise declaration).map (0 :: ·) fun _ _ before => before.cons 0
    have later : ((paths rest).map Path.shift).Pairwise Path.Before :=
      (paths_pairwise rest).map Path.shift fun _ _ before => before.shift
    have started : ∀ path ∈ paths rest, path ≠ [] := by
      intro path listed empty
      rw [empty] at listed
      exact nil_not_mem_paths rest listed
    rw [paths, List.pairwise_append, List.pairwise_cons]
    refine ⟨inside, ⟨?_, later⟩, ?_⟩
    · intro path past
      obtain ⟨path, listed, rfl⟩ := List.mem_map.mp past
      exact Path.before_shift [] (started path listed)
    · intro path through other beside
      obtain ⟨inner, listed, rfl⟩ := List.mem_map.mp through
      rcases List.mem_cons.mp beside with rfl | past
      · have nonempty : inner ≠ [] := by
          intro empty
          rw [empty, pathsBelow_eq] at listed
          exact nil_not_mem_paths _ listed
        exact .inside (Path.inside_cons_iff.mpr ⟨rfl, Path.inside_nil_iff.mpr nonempty⟩)
      · obtain ⟨path, listed, rfl⟩ := List.mem_map.mp past
        exact Path.before_shift inner (started path listed)

end

end Declaration

namespace File

/-- The paths to the declarations of a file, each after those to what is inside it. -/
def paths (file : File) : List (List Nat) := Declaration.paths file.declarations

/-- The declaration of a file that a path leads to. -/
def follow? (file : File) (path : List Nat) : Option Declaration :=
  Declaration.follow? file.declarations path

/-- The innermost class around the declaration of a file that a path leads to. -/
def enclosingClass? (file : File) (path : List Nat) : Option ClassDeclaration :=
  Declaration.enclosingClass? file.declarations path

/-- The class of a file that a path leads to. -/
def classAt? (file : File) (path : List Nat) : Option ClassDeclaration :=
  Declaration.classAt? file.declarations path

/-- A path of a file leads to the class that the declaration at its end declares. -/
theorem classAt?_eq_bind (file : File) (path : List Nat) :
    file.classAt? path = (file.follow? path).bind Declaration.class? :=
  Declaration.classAt?_eq_bind file.declarations path

/-- The visit of the declaration of a file that a path leads to. -/
def visitAt? (file : File) (path : List Nat) : Option Visit :=
  (file.follow? path).bind (Declaration.visit? (file.enclosingClass? path))

/-- A path of one step leads to a class declared at top level. -/
theorem classAt?_single (file : File) (position : Nat) :
    file.classAt? [position] = file.declarations[position]?.bind Declaration.class? := by
  rw [classAt?_eq_bind, follow?, Declaration.follow?, Path.follow?]
  show (file.declarations[position]?.bind some).bind _ = _
  rw [Option.bind_fun_some]

/-- One step further than a class a path leads to a class among its members. -/
theorem classAt?_concat {file : File} {path : List Nat} {declaration : ClassDeclaration}
    (leads : file.classAt? path = some declaration) (position : Nat) :
    file.classAt? (path ++ [position]) =
      declaration.members[position]?.bind Declaration.class? := by
  have started : path ≠ [] := by
    intro empty
    rw [empty] at leads
    cases leads
  have found := Declaration.classAt?_eq_some_iff.mp leads
  rw [Declaration.follow?] at found
  rw [classAt?_eq_bind, follow?, Declaration.follow?, Path.follow?_concat _ _ started, found,
    Option.bind_some, Declaration.members]

/-- A function is visited together with the innermost class around it. -/
theorem visitAt?_eq_ofFunction_iff {file : File} {path : List Nat}
    {enclosing : Option ClassDeclaration} {function : FunctionDeclaration} :
    file.visitAt? path = some (.ofFunction enclosing function) ↔
      file.follow? path = some (.ofFunction function) ∧
        file.enclosingClass? path = enclosing := by
  rw [visitAt?, Option.bind_eq_some_iff]
  constructor
  · intro visited
    obtain ⟨declaration, leads, visit⟩ := visited
    cases declaration with
    | ofFunction found =>
      cases visit
      exact ⟨leads, rfl⟩
    | ofClass head members => cases visit
    | ofObject head members => cases visit
    | ofProperty property => cases visit
  · intro found
    obtain ⟨leads, inside⟩ := found
    refine ⟨.ofFunction function, leads, ?_⟩
    rw [inside]
    rfl

/-- Whether a list holds the path to every declaration of a file once, in the order of places.
-/
structure EnumeratedBy (file : File) (paths : List (List Nat)) : Prop where
  /-- The paths are those that lead to a declaration. -/
  complete : ∀ path, path ∈ paths ↔ (file.follow? path).isSome
  /-- No path is listed twice. -/
  nodup : paths.Nodup
  /-- What is inside a declaration comes before it, and siblings follow their order. -/
  ordered : paths.Pairwise Path.Before

/-- The paths of a file enumerate its declarations. -/
theorem enumeratedBy_paths (file : File) : file.EnumeratedBy file.paths := by
  have ordered := Declaration.paths_pairwise file.declarations
  refine ⟨Declaration.mem_paths_iff file.declarations, ?_, ordered⟩
  exact ordered.imp fun before => before.ne

/-- The visits of a file are those of its declarations in the order of their paths, and then its
own. -/
theorem visits_eq (file : File) :
    file.visits = file.paths.filterMap file.visitAt? ++ [.ofFile] := by
  have outside : Declaration.visitAt? none file.declarations = file.visitAt? := by
    funext path
    rw [Declaration.visitAt?, Option.or_none]
    rfl
  rw [visits, Declaration.visitsIn_eq, outside]
  rfl

end File

/-- What a rule alone finds in a file is what it answers to the visits, in order. -/
theorem RuleSet.check_single (id : String) (rule : Rule) (file : File) :
    (RuleSet.check ⟨id, [rule], []⟩ file).findings =
      file.visits.flatMap fun visit => (rule.visit file visit).findings := by
  have visited := check_push_findings id rule file
  rw [Rule.visitAll, Report.concat, List.flatMap_map] at visited
  exact visited

end KotlinLint
