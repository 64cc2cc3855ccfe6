import KotlinLint.Hierarchy
import KotlinLint.Proofs.Visit.Order

/-!
# Which class stands for a name

Paths are compared step by step, and a path comes before those that go on where it ends. In this
order a declaration comes before what is inside it, and what is in an earlier declaration before
what is in a later one. The classes of a file are listed in this order
(`Declaration.classesIn_eq_filterMap`), so the class that stands for a name is the one with the
name that has the first path (`Hierarchy.get?_ofFile_eq_some_iff`).
-/

namespace KotlinLint

/-- Shifted paths are compared as the paths are. -/
theorem Path.shift_lt_shift {first second : List Nat} (before : first < second) :
    Path.shift first < Path.shift second := by
  cases second with
  | nil => exact absurd before (List.not_lt_nil first)
  | cons other later =>
    cases first with
    | nil => exact List.nil_lt_cons _ _
    | cons position rest =>
      refine List.cons_lt_cons_iff.mpr ?_
      rcases List.cons_lt_cons_iff.mp before with smaller | ⟨same, further⟩
      · exact .inl (Nat.succ_lt_succ smaller)
      · exact .inr ⟨congrArg Nat.succ same, further⟩

/-- A path through the first tree comes before one through a later tree. -/
theorem Path.cons_zero_lt_shift (inner : List Nat) {path : List Nat} (started : path ≠ []) :
    0 :: inner < Path.shift path := by
  cases path with
  | nil => exact absurd rfl started
  | cons position rest => exact List.cons_lt_cons_iff.mpr (.inl (Nat.succ_pos position))

namespace Declaration

mutual

/-- The paths from the members of a declaration to what is inside it, in preorder. -/
def preorderBelow : Declaration → List (List Nat)
  | .ofClass _ members => preorder members
  | .ofObject _ members => preorder members
  | .ofFunction _ => []
  | .ofProperty _ => []

/-- The paths to the declarations of a list and to those inside them, each before the paths to
what is inside its declaration. -/
def preorder : List Declaration → List (List Nat)
  | [] => []
  | declaration :: rest =>
    [0] :: declaration.preorderBelow.map (0 :: ·) ++ (preorder rest).map Path.shift

end

mutual

/-- The paths below a declaration are the same in both orders. -/
theorem preorderBelow_perm : ∀ declaration : Declaration,
    declaration.preorderBelow.Perm declaration.pathsBelow
  | .ofClass head members => by
    rw [preorderBelow, pathsBelow]
    exact preorder_perm members
  | .ofObject head members => by
    rw [preorderBelow, pathsBelow]
    exact preorder_perm members
  | .ofFunction function => by rw [preorderBelow, pathsBelow]
  | .ofProperty property => by rw [preorderBelow, pathsBelow]

/-- The paths to declarations are the same in both orders. -/
theorem preorder_perm : ∀ declarations : List Declaration,
    (preorder declarations).Perm (paths declarations)
  | [] => by rw [preorder, paths]
  | declaration :: rest => by
    have inside := (preorderBelow_perm declaration).map (0 :: ·)
    have later := (preorder_perm rest).map Path.shift
    rw [preorder, paths, List.cons_append]
    exact ((inside.append later).cons [0]).trans List.perm_middle.symm

end

/-- The paths in preorder are those that lead to a declaration. -/
theorem mem_preorder_iff (declarations : List Declaration) (path : List Nat) :
    path ∈ preorder declarations ↔ (follow? declarations path).isSome := by
  rw [(preorder_perm declarations).mem_iff, mem_paths_iff]

mutual

/-- The classes of a declaration are the one it declares and those on the paths below it. -/
theorem classes_eq : ∀ declaration : Declaration, declaration.classes =
    declaration.class?.toList ++
      declaration.preorderBelow.filterMap (classAt? declaration.members)
  | .ofClass head members => by
    rw [classes, preorderBelow, classesIn_eq_filterMap members]
    rfl
  | .ofObject head members => by
    rw [classes, preorderBelow, classesIn_eq_filterMap members]
    rfl
  | .ofFunction function => rfl
  | .ofProperty property => rfl

/-- The classes of a list of declarations are those on its paths, in preorder. -/
theorem classesIn_eq_filterMap : ∀ declarations : List Declaration,
    classesIn declarations = (preorder declarations).filterMap (classAt? declarations)
  | [] => rfl
  | declaration :: rest => by
    have inside : (declaration.preorderBelow.map (0 :: ·)).filterMap
        (classAt? (declaration :: rest)) =
          declaration.preorderBelow.filterMap (classAt? declaration.members) := by
      rw [List.filterMap_map]
      apply List.filterMap_congr
      intro path member
      cases path with
      | nil =>
        rw [(preorderBelow_perm declaration).mem_iff, pathsBelow_eq] at member
        exact absurd member (nil_not_mem_paths _)
      | cons position path => rfl
    have later : ((preorder rest).map Path.shift).filterMap (classAt? (declaration :: rest)) =
        (preorder rest).filterMap (classAt? rest) := by
      rw [List.filterMap_map]
      apply List.filterMap_congr
      intro path _
      rw [Function.comp_apply, classAt?, follow?, Path.follow?_shift]
      rfl
    have first : classAt? (declaration :: rest) [0] = declaration.class? :=
      classAt?_eq_bind _ _
    rw [classesIn, classes_eq declaration, classesIn_eq_filterMap rest, preorder,
      List.cons_append, List.filterMap_cons, first, List.filterMap_append, inside, later]
    cases declaration.class? <;> rfl

end

mutual

/-- The paths below a declaration are listed from first to last. -/
theorem preorderBelow_pairwise : ∀ declaration : Declaration,
    declaration.preorderBelow.Pairwise (· < ·)
  | .ofClass head members => by
    rw [preorderBelow]
    exact preorder_pairwise members
  | .ofObject head members => by
    rw [preorderBelow]
    exact preorder_pairwise members
  | .ofFunction function => by
    rw [preorderBelow]
    exact List.Pairwise.nil
  | .ofProperty property => by
    rw [preorderBelow]
    exact List.Pairwise.nil

/-- The paths in preorder are listed from first to last. -/
theorem preorder_pairwise : ∀ declarations : List Declaration,
    (preorder declarations).Pairwise (· < ·)
  | [] => by
    rw [preorder]
    exact List.Pairwise.nil
  | declaration :: rest => by
    have inside : (declaration.preorderBelow.map (0 :: ·)).Pairwise (· < ·) :=
      (preorderBelow_pairwise declaration).map (0 :: ·) fun _ _ before =>
        List.cons_lt_cons_iff.mpr (.inr ⟨rfl, before⟩)
    have later : ((preorder rest).map Path.shift).Pairwise (· < ·) :=
      (preorder_pairwise rest).map Path.shift fun _ _ => Path.shift_lt_shift
    have started : ∀ path ∈ preorder rest, path ≠ [] := by
      intro path listed empty
      rw [empty, (preorder_perm rest).mem_iff] at listed
      exact nil_not_mem_paths rest listed
    have below : ∀ path ∈ declaration.preorderBelow, path ≠ [] := by
      intro path listed empty
      rw [empty, (preorderBelow_perm declaration).mem_iff, pathsBelow_eq] at listed
      exact nil_not_mem_paths _ listed
    rw [preorder, List.cons_append, List.pairwise_cons, List.pairwise_append]
    refine ⟨?_, inside, later, ?_⟩
    · intro path listed
      rcases List.mem_append.mp listed with through | past
      · obtain ⟨inner, isBelow, rfl⟩ := List.mem_map.mp through
        obtain ⟨step, further, rfl⟩ := List.exists_cons_of_ne_nil (below inner isBelow)
        exact List.cons_lt_cons_iff.mpr (.inr ⟨rfl, List.nil_lt_cons _ _⟩)
      · obtain ⟨path, isLater, rfl⟩ := List.mem_map.mp past
        exact Path.cons_zero_lt_shift [] (started path isLater)
    · intro path through other past
      obtain ⟨inner, _, rfl⟩ := List.mem_map.mp through
      obtain ⟨path, listed, rfl⟩ := List.mem_map.mp past
      exact Path.cons_zero_lt_shift inner (started path listed)

end

end Declaration

/-- The class that stands for a name in a file: it has the name, and no class on an earlier path
has it. -/
def File.StandsFor (file : File) (name : String) (declaration : ClassDeclaration) : Prop :=
  ∃ path, file.classAt? path = some declaration ∧ declaration.name = name ∧
    ∀ earlier < path, ∀ other, file.classAt? earlier = some other → other.name ≠ name

/-- In a list from first to last, a search finds what no earlier member satisfies. -/
theorem find?_eq_some_iff_of_pairwise {paths : List (List Nat)} (ordered : paths.Pairwise (· < ·))
    {holds : List Nat → Bool} {path : List Nat} : paths.find? holds = some path ↔
      path ∈ paths ∧ holds path = true ∧
        ∀ earlier ∈ paths, earlier < path → holds earlier = false := by
  induction paths with
  | nil => simp
  | cons first rest ih =>
    obtain ⟨least, ordered⟩ := List.pairwise_cons.mp ordered
    cases here : holds first with
    | true =>
      rw [List.find?_cons_of_pos here]
      constructor
      · intro same
        obtain rfl := Option.some.inj same
        refine ⟨List.mem_cons_self, here, ?_⟩
        intro earlier listed smaller
        rcases List.mem_cons.mp listed with rfl | later
        · exact absurd smaller (List.lt_irrefl _)
        · exact absurd (List.lt_trans smaller (least earlier later)) (List.lt_irrefl _)
      · intro found
        obtain ⟨listed, _, none⟩ := found
        rcases List.mem_cons.mp listed with rfl | later
        · rfl
        · rw [none first List.mem_cons_self (least path later)] at here
          cases here
    | false =>
      rw [List.find?_cons_of_neg (by simp [here]), ih ordered]
      constructor
      · intro found
        obtain ⟨listed, satisfied, none⟩ := found
        refine ⟨List.mem_cons_of_mem _ listed, satisfied, ?_⟩
        intro earlier member smaller
        rcases List.mem_cons.mp member with rfl | later
        · exact here
        · exact none earlier later smaller
      · intro found
        obtain ⟨listed, satisfied, none⟩ := found
        rcases List.mem_cons.mp listed with rfl | later
        · rw [here] at satisfied
          cases satisfied
        · exact ⟨later, satisfied, fun earlier member =>
            none earlier (List.mem_cons_of_mem _ member)⟩

/-- The hierarchy of a file knows by a name the class that stands for it. -/
theorem Hierarchy.get?_ofFile_eq_some_iff (file : File) (name : String)
    (declaration : ClassDeclaration) :
    (Hierarchy.ofFile file).get? name = some declaration ↔ file.StandsFor name declaration := by
  have listed : ∀ {path found}, file.classAt? path = some found →
      path ∈ Declaration.preorder file.declarations := by
    intro path found leads
    have follows := Declaration.classAt?_eq_some_iff.mp leads
    exact (Declaration.mem_preorder_iff _ _).mpr (Option.isSome_of_eq_some follows)
  have classes : file.classes =
      (Declaration.preorder file.declarations).filterMap file.classAt? :=
    Declaration.classesIn_eq_filterMap file.declarations
  rw [get?, ofFile, classes, List.find?_filterMap, Option.bind_eq_some_iff]
  simp only [find?_eq_some_iff_of_pairwise (Declaration.preorder_pairwise file.declarations)]
  constructor
  · intro found
    obtain ⟨path, ⟨_, named, none⟩, leads⟩ := found
    rw [leads] at named
    refine ⟨path, leads, by simpa using named, ?_⟩
    intro earlier smaller other alsoLeads sameName
    have unnamed := none earlier (listed alsoLeads) smaller
    rw [alsoLeads] at unnamed
    simp [sameName] at unnamed
  · intro stands
    obtain ⟨path, leads, named, first⟩ := stands
    refine ⟨path, ⟨listed leads, ?_, ?_⟩, leads⟩
    · rw [leads]
      simpa using named
    · intro earlier _ smaller
      cases alsoLeads : file.classAt? earlier with
      | none => rfl
      | some other => simpa using first earlier smaller other alsoLeads

end KotlinLint
