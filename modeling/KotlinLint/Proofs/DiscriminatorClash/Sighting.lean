import KotlinLint.Proofs.DiscriminatorClash.Offense
import KotlinLint.Proofs.NumberedClasses
import KotlinLint.Proofs.Visit

/-!
# Sightings of offending classes

The rule looks for offending classes in two scans: among the members of roots, and at top level
among the classes that name a root. Each scan sights an offending class once below each of its
roots (`Sighting`), and each sighting makes one finding.
-/

namespace KotlinLint.DiscriminatorClash

/-- An offending class below a root, with the paths to both. -/
structure Sighting where
  /-- The path to the root. -/
  root : List Nat
  /-- The path to the class. -/
  path : List Nat
  /-- The class. -/
  candidate : ClassDeclaration

/-- The class of a sighting, with the path to it. -/
def Sighting.offender (sighting : Sighting) : List Nat × ClassDeclaration :=
  (sighting.path, sighting.candidate)

/-- Whether a path leads from a root to one of its members. -/
def IsMemberOfRoot (file : File) (outer path : List Nat) : Prop :=
  ∃ position root, path = outer ++ [position] ∧ file.classAt? outer = some root ∧ IsRoot root

/-- Whether a path leads to a place of the top level, and another such place is that of a root
whose name is that of a supertype of a class. -/
def IsSubtypeOfRoot (file : File) (other path : List Nat) (candidate : ClassDeclaration) : Prop :=
  ∃ place position root, other = [place] ∧ path = [position] ∧ place ≠ position ∧
    file.classAt? other = some root ∧ IsRoot root ∧ candidate.HasSupertype root.name

/-- A member belongs to one root. -/
theorem IsMemberOfRoot.unique {file : File} {outer other path : List Nat}
    (below : IsMemberOfRoot file outer path) (belowOther : IsMemberOfRoot file other path) :
    outer = other := by
  obtain ⟨position, root, steps, _, _⟩ := below
  obtain ⟨place, parent, otherSteps, _, _⟩ := belowOther
  rw [steps] at otherSteps
  have parts := List.append_inj' otherSteps rfl
  exact parts.1

/-- A member of a root is not declared at top level. -/
theorem IsMemberOfRoot.not_isSubtypeOfRoot {file : File} {outer other path : List Nat}
    {candidate : ClassDeclaration} (below : IsMemberOfRoot file outer path) :
    ¬ IsSubtypeOfRoot file other path candidate := by
  intro named
  obtain ⟨position, root, steps, leads, _⟩ := below
  obtain ⟨_, place, _, _, single, _⟩ := named
  rw [single] at steps
  have ends : [] ++ [place] = outer ++ [position] := steps
  have parts := List.append_inj' ends rfl
  rw [← parts.1] at leads
  cases leads

section Scans

variable (file : File) (discriminator : String)

/-- The offenders among some declarations, with their positions. -/
def offendersAmong (declarations : List Declaration) : List (Nat × ClassDeclaration) :=
  (numberedClasses declarations).filter fun (_, candidate) =>
    isOffender file discriminator candidate

/-- The sightings among the members of the class that a path leads to. -/
def memberSightingsAt (outer : List Nat) : List Sighting :=
  match file.classAt? outer with
  | none => []
  | some root =>
    if isPolymorphicRoot root then
      (offendersAmong file discriminator root.members).map fun (position, candidate) =>
        ⟨outer, outer ++ [position], candidate⟩
    else []

/-- The sightings among the members of all classes, in the order of visits. -/
def memberSightings : List Sighting := file.paths.flatMap (memberSightingsAt file discriminator)

/-- The sightings at top level of the direct subtypes of a class that is declared there. -/
def subtypeSightingsOf (numbered : Nat × ClassDeclaration) : List Sighting :=
  ((offendersAmong file discriminator file.declarations).filter fun (position, candidate) =>
    position ≠ numbered.1 && candidate.isDirectSubtypeOf numbered.2.name).map
      fun (position, candidate) => ⟨[numbered.1], [position], candidate⟩

/-- The sightings at top level, those of the subtypes of one class together. -/
def subtypeSightings : List Sighting :=
  ((numberedClasses file.declarations).filter fun (_, root) => isPolymorphicRoot root).flatMap
    (subtypeSightingsOf file discriminator)

/-- The sightings of both scans. -/
def sightings : List Sighting :=
  memberSightings file discriminator ++ subtypeSightings file discriminator

/-- In a file without the import there are no offenders. -/
theorem offendersAmong_eq_nil (missing : file.hasImport serializableImport = false)
    (declarations : List Declaration) : offendersAmong file discriminator declarations = [] := by
  rw [offendersAmong, List.filter_eq_nil_iff]
  intro numbered _
  show ¬ isOffender file discriminator numbered.2 = true
  rw [isOffender, missing, Bool.false_and, Bool.false_and]
  exact Bool.false_ne_true

/-- The findings for the members of a class are those of the sightings below it. -/
theorem visitClass_findings {outer : List Nat} {root : ClassDeclaration}
    (leads : file.classAt? outer = some root) :
    (visitClass discriminator file root).findings =
      (memberSightingsAt file discriminator outer).map fun sighting =>
        findingFor file discriminator sighting.candidate := by
  rw [visitClass, memberSightingsAt, leads]
  by_cases isRoot : isPolymorphicRoot root = true
  · simp only [if_pos isRoot]
    rw [whenImported, List.map_map]
    cases imported : file.hasImport serializableImport with
    | true =>
      have found := filterMap_finding?_eq file discriminator imported (fun _ => true) Prod.snd
        (numberedClasses root.members)
      show memberFindings file discriminator root = _
      rw [memberFindings, ClassDeclaration.nestedClasses, ← numberedClasses_map_snd,
        List.filter_map]
      exact found
    | false =>
      rw [offendersAmong_eq_nil file discriminator imported]
      rfl
  · rw [if_neg isRoot]
    simp only [if_neg isRoot]
    rfl

/-- The findings for the subtypes of one class are those of the sightings below it. -/
theorem subtypes_findings (imported : file.hasImport serializableImport = true)
    {numbered : Nat × ClassDeclaration} {rank : Nat}
    (listed : (numbered, rank) ∈ (numberedClasses file.declarations).zipIdx) :
    ((((numberedClasses file.declarations).map Prod.snd).zipIdx.filter fun (candidate, other) =>
        other ≠ rank && candidate.isDirectSubtypeOf numbered.2.name &&
          serializable.isAmong candidate.annotations).filterMap
            fun (candidate, _) => finding? file discriminator candidate) =
      (subtypeSightingsOf file discriminator numbered).map fun sighting =>
        findingFor file discriminator sighting.candidate := by
  have apart := numberedClasses_nodup file.declarations
  have ranked := map_filter_zipIdx apart (fun candidate =>
    candidate.isDirectSubtypeOf numbered.2.name &&
      serializable.isAmong candidate.annotations) listed
  have found := filterMap_finding?_eq file discriminator imported
    (fun (position, candidate) =>
      position ≠ numbered.1 && candidate.isDirectSubtypeOf numbered.2.name) Prod.snd
    (numberedClasses file.declarations)
  simp only [← Bool.and_assoc] at ranked
  rw [← ranked, List.filterMap_map] at found
  rw [subtypeSightingsOf, offendersAmong, List.filter_filter, List.map_map]
  exact found

/-- The findings at top level are those of the sightings there. -/
theorem visitFile_findings : (visitFile discriminator file).findings =
    (subtypeSightings file discriminator).map fun sighting =>
      findingFor file discriminator sighting.candidate := by
  rw [visitFile, whenImported, subtypeSightings, List.map_flatMap]
  cases imported : file.hasImport serializableImport with
  | true =>
    show subtypeFindings file discriminator = _
    rw [subtypeFindings, File.topClasses, ← numberedClasses_map_snd]
    exact flatMap_filter_zipIdx (numberedClasses file.declarations) isPolymorphicRoot
      fun numbered rank listed => subtypes_findings file discriminator imported listed
  | false =>
    have nothing : subtypeSightingsOf file discriminator = fun _ => [] := by
      funext numbered
      rw [subtypeSightingsOf, offendersAmong_eq_nil file discriminator imported]
      rfl
    rw [nothing]
    exact (List.flatMap_eq_nil_iff.mpr fun _ _ => rfl).symm

/-- The findings at the visit of a declaration are those of the sightings among its members. -/
theorem visitAt?_findings (path : List Nat) :
    ((file.visitAt? path).toList.flatMap fun visit =>
        ((rule discriminator).visit file visit).findings) =
      (memberSightingsAt file discriminator path).map fun sighting =>
        findingFor file discriminator sighting.candidate := by
  cases leads : file.follow? path with
  | none =>
    rw [File.visitAt?, memberSightingsAt, File.classAt?_eq_bind, leads]
    rfl
  | some declaration =>
    cases declaration with
    | ofClass head members =>
      have isClass : file.classAt? path = some ⟨head, members⟩ :=
        Declaration.classAt?_eq_some_iff.mpr leads
      rw [← visitClass_findings file discriminator isClass, File.visitAt?, leads]
      exact List.append_nil _
    | ofObject head members =>
      rw [File.visitAt?, memberSightingsAt, File.classAt?_eq_bind, leads]
      rfl
    | ofFunction function =>
      rw [File.visitAt?, memberSightingsAt, File.classAt?_eq_bind, leads]
      rfl
    | ofProperty property =>
      rw [File.visitAt?, memberSightingsAt, File.classAt?_eq_bind, leads]
      rfl

/-- The findings of the rule are those of the sightings. -/
theorem check_findings (id : String) :
    (RuleSet.check ⟨id, [rule discriminator], []⟩ file).findings =
      (sightings file discriminator).map fun sighting =>
        findingFor file discriminator sighting.candidate := by
  have top := visitFile_findings file discriminator
  rw [RuleSet.check_single, File.visits_eq, List.flatMap_append, List.flatMap_singleton,
    List.filterMap_eq_flatMap_toList, List.flatMap_assoc, sightings, List.map_append,
    memberSightings, List.map_flatMap, ← top]
  rw [funext (visitAt?_findings file discriminator)]
  rfl

/-- The offenders among some declarations are the classes among them that offend. -/
theorem mem_offendersAmong_iff {declarations : List Declaration} {position : Nat}
    {candidate : ClassDeclaration} :
    (position, candidate) ∈ offendersAmong file discriminator declarations ↔
      declarations[position]?.bind Declaration.class? = some candidate ∧
        Offends file discriminator candidate := by
  rw [offendersAmong, List.mem_filter, mem_numberedClasses_iff, isOffender_iff]

/-- No position is that of two offenders. -/
theorem offendersAmong_nodup (declarations : List Declaration) :
    (offendersAmong file discriminator declarations).Nodup :=
  (List.Nodup.of_map _ (numberedClasses_nodup declarations)).filter _

/-- The first scan sights the offending members of roots. -/
theorem mem_memberSightings_iff (sighting : Sighting) :
    sighting ∈ memberSightings file discriminator ↔
      file.classAt? sighting.path = some sighting.candidate ∧
        Offends file discriminator sighting.candidate ∧
        IsMemberOfRoot file sighting.root sighting.path := by
  rw [memberSightings, List.mem_flatMap]
  constructor
  · intro sighted
    obtain ⟨outer, _, sighted⟩ := sighted
    rw [memberSightingsAt] at sighted
    cases leads : file.classAt? outer with
    | none =>
      rw [leads] at sighted
      exact absurd sighted List.not_mem_nil
    | some root =>
      rw [leads] at sighted
      by_cases isRoot : isPolymorphicRoot root = true
      · simp only [if_pos isRoot] at sighted
        obtain ⟨⟨position, candidate⟩, offender, rfl⟩ := List.mem_map.mp sighted
        rw [mem_offendersAmong_iff, ← File.classAt?_concat leads] at offender
        exact ⟨offender.1, offender.2, position, root, rfl, leads,
          (isPolymorphicRoot_iff root).mp isRoot⟩
      · simp only [if_neg isRoot] at sighted
        exact absurd sighted List.not_mem_nil
  · intro offends
    obtain ⟨outer, path, candidate⟩ := sighting
    obtain ⟨found, offends, position, root, ends, leads, isRoot⟩ := offends
    have listed : outer ∈ file.paths := by
      rw [file.enumeratedBy_paths.complete]
      exact Option.isSome_of_eq_some (Declaration.classAt?_eq_some_iff.mp leads)
    refine ⟨outer, listed, ?_⟩
    rw [memberSightingsAt, leads]
    simp only [if_pos ((isPolymorphicRoot_iff root).mpr isRoot)]
    have same : path = outer ++ [position] := ends
    have found : file.classAt? path = some candidate := found
    rw [same, File.classAt?_concat leads] at found
    rw [same]
    exact List.mem_map.mpr ⟨(position, candidate),
      (mem_offendersAmong_iff file discriminator).mpr ⟨found, offends⟩, rfl⟩

/-- The second scan sights the offending classes at top level that name a root there. -/
theorem mem_subtypeSightings_iff (sighting : Sighting) :
    sighting ∈ subtypeSightings file discriminator ↔
      file.classAt? sighting.path = some sighting.candidate ∧
        Offends file discriminator sighting.candidate ∧
        IsSubtypeOfRoot file sighting.root sighting.path sighting.candidate := by
  rw [subtypeSightings, List.mem_flatMap]
  constructor
  · intro sighted
    obtain ⟨⟨place, root⟩, isRoot, sighted⟩ := sighted
    obtain ⟨listed, isRoot⟩ := List.mem_filter.mp isRoot
    obtain ⟨⟨position, candidate⟩, offender, rfl⟩ := List.mem_map.mp sighted
    obtain ⟨offender, names⟩ := List.mem_filter.mp offender
    rw [mem_numberedClasses_iff, ← File.classAt?_single] at listed
    rw [mem_offendersAmong_iff, ← File.classAt?_single] at offender
    rw [Bool.and_eq_true, decide_eq_true_eq, ClassDeclaration.isDirectSubtypeOf_iff] at names
    exact ⟨offender.1, offender.2, place, position, root, rfl, rfl, Ne.symm names.1, listed,
      (isPolymorphicRoot_iff root).mp isRoot, names.2⟩
  · intro offends
    obtain ⟨other, path, candidate⟩ := sighting
    obtain ⟨found, offends, place, position, root, isOther, isPath, differ, leads, isRoot, named⟩ :=
      offends
    have isOther : other = [place] := isOther
    have isPath : path = [position] := isPath
    subst isOther
    subst isPath
    have found : file.classAt? [position] = some candidate := found
    have leads : file.classAt? [place] = some root := leads
    rw [File.classAt?_single] at found leads
    refine ⟨(place, root), List.mem_filter.mpr
      ⟨mem_numberedClasses_iff.mpr leads, (isPolymorphicRoot_iff root).mpr isRoot⟩, ?_⟩
    refine List.mem_map.mpr ⟨(position, candidate), List.mem_filter.mpr ⟨?_, ?_⟩, rfl⟩
    · exact (mem_offendersAmong_iff file discriminator).mpr ⟨found, offends⟩
    · rw [Bool.and_eq_true, decide_eq_true_eq, ClassDeclaration.isDirectSubtypeOf_iff]
      exact ⟨Ne.symm differ, named⟩

/-- The sightings below a class tell the path to it. -/
theorem root_of_mem_memberSightingsAt {outer : List Nat} {sighting : Sighting}
    (sighted : sighting ∈ memberSightingsAt file discriminator outer) :
    sighting.root = outer := by
  rw [memberSightingsAt] at sighted
  split at sighted
  · exact absurd sighted List.not_mem_nil
  · split at sighted
    · obtain ⟨offender, _, rfl⟩ := List.mem_map.mp sighted
      rfl
    · exact absurd sighted List.not_mem_nil

/-- No member of a class is sighted twice below it. -/
theorem memberSightingsAt_nodup (outer : List Nat) :
    (memberSightingsAt file discriminator outer).Nodup := by
  rw [memberSightingsAt]
  split
  · exact List.nodup_nil
  · split
    · refine (offendersAmong_nodup file discriminator _).map ?_
      intro first second same
      obtain ⟨position, candidate⟩ := first
      obtain ⟨other, found⟩ := second
      injection same with _ paths classes
      have positions := List.append_cancel_left paths
      injection positions with positions
      rw [positions, classes]
    · exact List.nodup_nil

/-- The first scan sights no class twice below one root. -/
theorem memberSightings_nodup : (memberSightings file discriminator).Nodup := by
  refine nodup_flatMap_of_key id Sighting.root ?_ ?_ ?_
  · rw [List.map_id]
    exact file.enumeratedBy_paths.nodup
  · intro outer _
    exact memberSightingsAt_nodup file discriminator outer
  · intro outer _ sighting sighted
    exact root_of_mem_memberSightingsAt file discriminator sighted

/-- The second scan sights no class twice below one root. -/
theorem subtypeSightings_nodup : (subtypeSightings file discriminator).Nodup := by
  have numbers := (List.nodup_map_iff_inj_on
    (List.Nodup.of_map _ (numberedClasses_nodup file.declarations))).mp
      (numberedClasses_nodup file.declarations)
  refine nodup_flatMap_of_key (fun numbered => [numbered.1]) Sighting.root ?_ ?_ ?_
  · refine List.Nodup.map_on ?_
      ((List.Nodup.of_map _ (numberedClasses_nodup file.declarations)).filter _)
    intro first isFirst second isSecond same
    injection same with same
    exact numbers first (List.mem_of_mem_filter isFirst) second
      (List.mem_of_mem_filter isSecond) same
  · intro numbered _
    rw [subtypeSightingsOf]
    refine ((offendersAmong_nodup file discriminator _).filter _).map ?_
    intro first second same
    obtain ⟨position, candidate⟩ := first
    obtain ⟨other, found⟩ := second
    injection same with _ paths classes
    injection paths with positions
    rw [positions, classes]
  · intro numbered _ sighting sighted
    obtain ⟨offender, _, rfl⟩ := List.mem_map.mp sighted
    rfl

/-- A class is sighted below a root exactly when it offends there, as a member or as a subtype. -/
theorem mem_sightings_iff (sighting : Sighting) : sighting ∈ sightings file discriminator ↔
    file.classAt? sighting.path = some sighting.candidate ∧
      Offends file discriminator sighting.candidate ∧
      (IsMemberOfRoot file sighting.root sighting.path ∨
        IsSubtypeOfRoot file sighting.root sighting.path sighting.candidate) := by
  rw [sightings, List.mem_append, mem_memberSightings_iff, mem_subtypeSightings_iff]
  constructor
  · intro sighted
    rcases sighted with ⟨found, offends, below⟩ | ⟨found, offends, below⟩
    · exact ⟨found, offends, .inl below⟩
    · exact ⟨found, offends, .inr below⟩
  · intro sighted
    obtain ⟨found, offends, below | below⟩ := sighted
    · exact .inl ⟨found, offends, below⟩
    · exact .inr ⟨found, offends, below⟩

/-- No class is sighted twice below one root. -/
theorem sightings_nodup : (sightings file discriminator).Nodup := by
  refine List.Nodup.append (memberSightings_nodup file discriminator)
    (subtypeSightings_nodup file discriminator) ?_
  intro sighting asMember asSubtype
  obtain ⟨_, _, below⟩ := (mem_memberSightings_iff file discriminator sighting).mp asMember
  obtain ⟨_, _, named⟩ := (mem_subtypeSightings_iff file discriminator sighting).mp asSubtype
  exact below.not_isSubtypeOfRoot named

end Scans

end KotlinLint.DiscriminatorClash
