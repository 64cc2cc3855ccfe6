import KotlinLint.Proofs.Visit

/-!
# The order of visits

Around a declaration there may be several classes, one inside the other, with objects between
them; the innermost is the one whose place is inside the places of all others
(`InnermostClass`). A rule is asked about every class and every function of a file once, about
what is inside a class before the class, and about a function together with the innermost class
around it (`File.VisitedBy`). What it answers about classes and about functions
(`Rule.findingsAt`), put together in this order, and last what it answers about the file, is what
it finds (`RuleSet.findings_in_visiting_order`).
-/

namespace KotlinLint

/-- Whether a class is the innermost one around the place that a path leads to, or whether there
is no class around it. -/
inductive InnermostClass (declarations : List Declaration) (path : List Nat) :
    Option ClassDeclaration → Prop where
  /-- The class is around the place, and every class around the place is around the class or is
  this one. -/
  | inside {outer : List Nat} {declaration : ClassDeclaration} : Path.Inside path outer →
      Declaration.classAt? declarations outer = some declaration →
      (∀ other, Path.Inside path other →
        (Declaration.classAt? declarations other).isSome → other <+: outer) →
      InnermostClass declarations path (some declaration)
  /-- No class is around the place. -/
  | outside : (∀ outer, Path.Inside path outer →
        Declaration.classAt? declarations outer = none) →
      InnermostClass declarations path none

namespace InnermostClass

variable {declarations : List Declaration}

/-- There is at most one innermost class. -/
theorem unique {path : List Nat} {first second : Option ClassDeclaration}
    (isFirst : InnermostClass declarations path first)
    (isSecond : InnermostClass declarations path second) : first = second := by
  cases isFirst with
  | outside none =>
    cases isSecond with
    | outside _ => rfl
    | inside within found _ => exact absurd ((none _ within).symm.trans found) nofun
  | @inside outer _ within found deepest =>
    cases isSecond with
    | outside none => exact absurd ((none _ within).symm.trans found) nofun
    | @inside other _ alsoWithin alsoFound alsoDeepest =>
      have forth := alsoDeepest outer within (Option.isSome_of_eq_some found)
      have back := deepest other alsoWithin (Option.isSome_of_eq_some alsoFound)
      have same : outer = other := forth.eq_of_length_le back.length_le
      rw [← found, same, alsoFound]

/-- A place at top level is in no class. -/
theorem of_length_le_one {path : List Nat} (short : path.length ≤ 1) :
    InnermostClass declarations path none := by
  refine .outside fun outer within => ?_
  have shorter : outer.length < path.length := by
    refine Nat.lt_of_le_of_ne within.1.length_le fun same => ?_
    exact within.2 (within.1.eq_of_length same)
  have start : outer = [] := List.eq_nil_of_length_eq_zero (by omega)
  rw [start]
  rfl

/-- One step further into a declaration the innermost class is the one found among the members,
or else the declaration itself when it is a class. -/
theorem cons {declaration : Declaration} {position next : Nat} {path : List Nat}
    {enclosing : Option ClassDeclaration}
    (found : declarations[position]? = some declaration)
    (inner : InnermostClass declaration.members (next :: path) enclosing) :
    InnermostClass declarations (position :: next :: path)
      (enclosing.or declaration.class?) := by
  have own : Declaration.classAt? declarations [position] = declaration.class? := by
    rw [Declaration.classAt?_eq_bind, Declaration.follow?, Path.follow?, found]
    rfl
  have below : ∀ step rest, Declaration.classAt? declarations (position :: step :: rest) =
      Declaration.classAt? declaration.members (step :: rest) := by
    intro step rest
    rw [Declaration.classAt?, Declaration.follow?, Path.follow?, found]
    rfl
  -- A place around this one is the declaration or leads through it.
  have around : ∀ other, Path.Inside (position :: next :: path) other →
      (Declaration.classAt? declarations other).isSome →
      other = [position] ∨ ∃ step rest, other = position :: step :: rest ∧
        Path.Inside (next :: path) (step :: rest) := by
    intro other within isClass
    cases other with
    | nil => cases isClass
    | cons first further =>
      obtain ⟨rfl, deeper⟩ := Path.inside_cons_iff.mp within
      cases further with
      | nil => exact .inl rfl
      | cons step rest => exact .inr ⟨step, rest, rfl, deeper⟩
  cases inner with
  | @inside outer innermost within leads deepest =>
    rw [Option.some_or]
    cases outer with
    | nil => cases leads
    | cons step rest =>
      have leadsOn := (below step rest).trans leads
      refine .inside (Path.cons_inside_cons_iff.mpr within) leadsOn ?_
      intro other alsoWithin isClass
      rcases around other alsoWithin isClass with rfl | ⟨otherStep, otherRest, rfl, deeper⟩
      · exact List.prefix_append [position] (step :: rest)
      · rw [below] at isClass
        exact List.cons_prefix_cons.mpr ⟨rfl, deepest _ deeper isClass⟩
  | outside none =>
    rw [Option.none_or]
    have only : ∀ other, Path.Inside (position :: next :: path) other →
        (Declaration.classAt? declarations other).isSome → other = [position] := by
      intro other within isClass
      rcases around other within isClass with same | ⟨step, rest, rfl, deeper⟩
      · exact same
      · rw [below, none _ deeper] at isClass
        cases isClass
    cases declares : declaration.class? with
    | some itself =>
      have within : Path.Inside (position :: next :: path) [position] :=
        Path.cons_inside_cons_iff.mpr (Path.inside_nil_iff.mpr (List.cons_ne_nil _ _))
      refine .inside within (own.trans declares) ?_
      intro other alsoWithin isClass
      rw [only other alsoWithin isClass]
    | none =>
      refine .outside fun outer within => ?_
      by_contra isClass
      have same := only outer within (Option.isSome_iff_ne_none.mpr isClass)
      rw [same, own] at isClass
      exact isClass declares

end InnermostClass

/-- The class that the visits take for the one around a place is the innermost one. -/
theorem Declaration.innermostClass_enclosingClass? (declarations : List Declaration)
    (path : List Nat) :
    InnermostClass declarations path (Declaration.enclosingClass? declarations path) := by
  induction path generalizing declarations with
  | nil => exact .of_length_le_one (Nat.zero_le 1)
  | cons position path ih =>
    match path with
    | [] => exact .of_length_le_one (Nat.le_refl 1)
    | next :: path =>
      rw [Declaration.enclosingClass?]
      cases found : declarations[position]? with
      | none =>
        refine .outside fun outer within => ?_
        match outer with
        | [] => rfl
        | first :: rest =>
          obtain ⟨rfl, _⟩ := Path.inside_cons_iff.mp within
          rw [Declaration.classAt?_eq_bind, Declaration.follow?, Path.follow?, found]
          rfl
      | some declaration => exact .cons found (ih declaration.members)

/-- Whether visits with their places are those that a file asks for, apart from its own. -/
structure File.VisitedBy (file : File) (visits : List (List Nat × Visit)) : Prop where
  /-- The classes are visited, at any depth. -/
  classes : ∀ path declaration,
    (path, .ofClass declaration) ∈ visits ↔ file.classAt? path = some declaration
  /-- The functions are visited, at any depth. -/
  functions : ∀ path function,
    (∃ enclosing, (path, .ofFunction enclosing function) ∈ visits) ↔
      file.follow? path = some (.ofFunction function)
  /-- A function is visited together with the innermost class around it. -/
  enclosed : ∀ path enclosing function, (path, .ofFunction enclosing function) ∈ visits →
    InnermostClass file.declarations path enclosing
  /-- The file is not visited yet. -/
  inFile : ∀ path, (path, .ofFile) ∉ visits
  /-- No place is visited twice. -/
  nodup : (visits.map Prod.fst).Nodup
  /-- What is inside a class is visited before the class, and siblings follow their order. -/
  ordered : (visits.map Prod.fst).Pairwise Path.Before

namespace File

variable (file : File)

/-- The visits of the declarations of a file with their places. -/
def placedVisits : List (List Nat × Visit) :=
  file.paths.filterMap fun path => (file.visitAt? path).map (path, ·)

/-- A visit is made at a place when the declaration there asks for it. -/
theorem mem_placedVisits_iff {path : List Nat} {visit : Visit} :
    (path, visit) ∈ file.placedVisits ↔ file.visitAt? path = some visit := by
  rw [placedVisits, List.mem_filterMap]
  constructor
  · intro listed
    obtain ⟨other, _, made⟩ := listed
    obtain ⟨_, visited, same⟩ := Option.map_eq_some_iff.mp made
    cases same
    exact visited
  · intro visited
    refine ⟨path, ?_, by rw [visited, Option.map_some]⟩
    obtain ⟨declaration, leads, _⟩ := Option.bind_eq_some_iff.mp visited
    exact (file.enumeratedBy_paths.complete path).mpr (Option.isSome_of_eq_some leads)

/-- The places of the visits are among the paths of the file, in their order. -/
theorem placedVisits_fst_sublist : (file.placedVisits.map Prod.fst).Sublist file.paths := by
  have kept : file.placedVisits.map Prod.fst =
      file.paths.filter fun path => (file.visitAt? path).isSome := by
    rw [placedVisits, List.map_filterMap, ← List.filterMap_eq_filter]
    apply List.filterMap_congr
    intro path _
    cases visited : file.visitAt? path <;> simp [Option.guard, visited]
  rw [kept]
  exact List.filter_sublist

/-- Without their places the visits are those of the file, which end with its own. -/
theorem visits_eq_placedVisits : file.visits = file.placedVisits.map Prod.snd ++ [.ofFile] := by
  rw [visits_eq, placedVisits, List.map_filterMap]
  congr 1
  apply List.filterMap_congr
  intro path _
  rw [Option.map_map]
  exact Option.map_id'.symm

/-- The visits are those that the file asks for. -/
theorem visitedBy_placedVisits : file.VisitedBy file.placedVisits where
  classes path declaration := by
    rw [mem_placedVisits_iff, visitAt?, classAt?_eq_bind]
    cases file.follow? path with
    | none => simp
    | some found => cases found <;> simp [Declaration.visit?, Declaration.class?]
  functions path function := by
    simp only [mem_placedVisits_iff, visitAt?_eq_ofFunction_iff, exists_and_left, exists_eq',
      and_true]
  enclosed path enclosing function listed := by
    have visited := (file.mem_placedVisits_iff).mp listed
    obtain ⟨_, rfl⟩ := visitAt?_eq_ofFunction_iff.mp visited
    exact Declaration.innermostClass_enclosingClass? file.declarations path
  inFile path listed := by
    have visited := (file.mem_placedVisits_iff).mp listed
    obtain ⟨declaration, _, made⟩ := Option.bind_eq_some_iff.mp visited
    cases declaration <;> cases made
  nodup := file.enumeratedBy_paths.nodup.sublist file.placedVisits_fst_sublist
  ordered := file.enumeratedBy_paths.ordered.sublist file.placedVisits_fst_sublist

end File

/-- What a rule finds at a place: in a class, in a function with the class around it, or in the
file. -/
def Rule.findingsAt (rule : Rule) (file : File) : Visit → List Finding
  | .ofClass declaration => (rule.visitClass file declaration).findings
  | .ofFunction enclosing function => (rule.visitFunction file enclosing function).findings
  | .ofFile => (rule.visitFile file).findings

/-- The answer to a visit holds what the rule finds at its place. -/
theorem Rule.visit_findings (rule : Rule) (file : File) (visit : Visit) :
    (rule.visit file visit).findings = rule.findingsAt file visit := by
  cases visit <;> rfl

/-- What a rule alone finds in a file is what it finds in the classes and the functions, each
visited once and after what is inside it, and then what it finds in the file. -/
theorem RuleSet.findings_in_visiting_order (id : String) (rule : Rule) (file : File) :
    ∃ visits : List (List Nat × Visit), file.VisitedBy visits ∧
      ((push { id := id } rule).check file).findings =
        (visits.flatMap fun placed => rule.findingsAt file placed.2) ++
          (rule.visitFile file).findings := by
  refine ⟨file.placedVisits, file.visitedBy_placedVisits, ?_⟩
  have answers := check_single id rule file
  simp only [Rule.visit_findings] at answers
  rw [file.visits_eq_placedVisits, List.flatMap_append, List.flatMap_map,
    List.flatMap_singleton] at answers
  exact answers

end KotlinLint
