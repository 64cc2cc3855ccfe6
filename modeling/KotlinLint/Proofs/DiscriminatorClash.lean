import KotlinLint.Proofs.DiscriminatorClash.Sighting

/-!
# Findings for classes that clash with their discriminator

The findings are those of the offending classes below a root: first those of the members of
roots, then those of the classes at top level that name a root. A class has one finding below
each of its roots, so it has several when it is declared at top level and names several roots
there.
-/

namespace KotlinLint.DiscriminatorClash

/-- A class is among the offenders of some sightings when it is sighted below some root. -/
theorem mem_map_offender_iff {sighted : List Sighting} {path : List Nat}
    {candidate : ClassDeclaration} : (path, candidate) ∈ sighted.map Sighting.offender ↔
      ∃ root, (⟨root, path, candidate⟩ : Sighting) ∈ sighted := by
  rw [List.mem_map]
  constructor
  · intro offends
    obtain ⟨⟨root, otherPath, otherCandidate⟩, member, same⟩ := offends
    cases same
    exact ⟨root, member⟩
  · intro offends
    obtain ⟨root, member⟩ := offends
    exact ⟨⟨root, path, candidate⟩, member, rfl⟩

/-- The findings of the rule are those of the offending members of roots, followed by those of
the offending classes at top level that name a root declared at another place there. -/
theorem findings_of_offending_classes (id : String) (file : File) (discriminator : String) :
    ∃ members subtypes : List (List Nat × ClassDeclaration),
      (RuleSet.check ⟨id, [rule discriminator], []⟩ file).findings =
        (members ++ subtypes).map (fun offender => findingFor file discriminator offender.2) ∧
      (∀ path candidate, (path, candidate) ∈ members ↔
        file.classAt? path = some candidate ∧ Offends file discriminator candidate ∧
          ∃ root, IsMemberOfRoot file root path) ∧
      (∀ path candidate, (path, candidate) ∈ subtypes ↔
        file.classAt? path = some candidate ∧ Offends file discriminator candidate ∧
          ∃ root, IsSubtypeOfRoot file root path candidate) := by
  refine ⟨(memberSightings file discriminator).map Sighting.offender,
    (subtypeSightings file discriminator).map Sighting.offender, ?_, ?_, ?_⟩
  · rw [check_findings, sightings, ← List.map_append, List.map_map]
    rfl
  · intro path candidate
    have sighted := fun root => mem_memberSightings_iff file discriminator ⟨root, path, candidate⟩
    rw [mem_map_offender_iff]
    simp only [sighted, exists_and_left]
  · intro path candidate
    have sighted := fun root => mem_subtypeSightings_iff file discriminator ⟨root, path, candidate⟩
    rw [mem_map_offender_iff]
    simp only [sighted, exists_and_left]

/-- Two sightings of one class that differ are at top level and below different roots. -/
theorem subtypes_of_two_sightings {file : File} {discriminator : String}
    {first second : Sighting} (isFirst : first ∈ sightings file discriminator)
    (isSecond : second ∈ sightings file discriminator) (same : first.path = second.path)
    (differ : first ≠ second) :
    first.candidate = second.candidate ∧ first.root ≠ second.root ∧
      IsSubtypeOfRoot file first.root first.path first.candidate ∧
      IsSubtypeOfRoot file second.root second.path second.candidate := by
  obtain ⟨found, _, below⟩ := (mem_sightings_iff file discriminator first).mp isFirst
  obtain ⟨foundSecond, _, belowSecond⟩ :=
    (mem_sightings_iff file discriminator second).mp isSecond
  obtain ⟨root, path, candidate⟩ := first
  obtain ⟨rootSecond, pathSecond, candidateSecond⟩ := second
  have paths : path = pathSecond := same
  subst paths
  have classes : candidate = candidateSecond := Option.some.inj (found.symm.trans foundSecond)
  subst classes
  have roots : root ≠ rootSecond := by
    intro sameRoot
    apply differ
    rw [sameRoot]
  rcases below with member | subtype
  · rcases belowSecond with memberSecond | subtypeSecond
    · exact absurd (member.unique memberSecond) roots
    · exact absurd subtypeSecond member.not_isSubtypeOfRoot
  · rcases belowSecond with memberSecond | subtypeSecond
    · exact absurd subtype memberSecond.not_isSubtypeOfRoot
    · exact ⟨rfl, roots, subtype, subtypeSecond⟩

/-- A finding is owed to a root and a class below it, one for each such pair. So a class has more
than one finding exactly when it offends and names two roots of the top level, on which it is
declared itself. -/
theorem findings_repeat_iff (id : String) (file : File) (discriminator : String) :
    ∃ reported : List Sighting, reported.Nodup ∧
      (∀ sighting, sighting ∈ reported ↔
        file.classAt? sighting.path = some sighting.candidate ∧
          Offends file discriminator sighting.candidate ∧
          (IsMemberOfRoot file sighting.root sighting.path ∨
            IsSubtypeOfRoot file sighting.root sighting.path sighting.candidate)) ∧
      (RuleSet.check ⟨id, [rule discriminator], []⟩ file).findings =
        reported.map (fun sighting => findingFor file discriminator sighting.candidate) ∧
      ∀ path, 1 < (reported.map Sighting.path).count path ↔
        ∃ candidate first second, file.classAt? path = some candidate ∧
          Offends file discriminator candidate ∧ first ≠ second ∧
          IsSubtypeOfRoot file first path candidate ∧
          IsSubtypeOfRoot file second path candidate := by
  refine ⟨sightings file discriminator, sightings_nodup file discriminator,
    mem_sightings_iff file discriminator, check_findings file discriminator id, ?_⟩
  intro path
  rw [one_lt_count_map_iff (sightings_nodup file discriminator)]
  constructor
  · intro twice
    obtain ⟨first, isFirst, second, isSecond, differ, atPath, alsoAtPath⟩ := twice
    obtain ⟨classes, roots, named, alsoNamed⟩ := subtypes_of_two_sightings isFirst isSecond
      (atPath.trans alsoAtPath.symm) differ
    obtain ⟨found, offends, _⟩ := (mem_sightings_iff file discriminator first).mp isFirst
    rw [atPath] at found named
    rw [alsoAtPath, ← classes] at alsoNamed
    exact ⟨first.candidate, first.root, second.root, found, offends, roots, named, alsoNamed⟩
  · intro two
    obtain ⟨candidate, first, second, found, offends, differ, named, alsoNamed⟩ := two
    refine ⟨⟨first, path, candidate⟩, ?_, ⟨second, path, candidate⟩, ?_, ?_, rfl, rfl⟩
    · exact (mem_sightings_iff file discriminator _).mpr ⟨found, offends, .inr named⟩
    · exact (mem_sightings_iff file discriminator _).mpr ⟨found, offends, .inr alsoNamed⟩
    · intro same
      injection same with roots
      exact differ roots

/-- A root of a serializable hierarchy that has no members. -/
def emptyRoot (name : String) (nameSpan : Span) : Declaration :=
  .ofClass
    { name := name
      nameSpan := nameSpan
      span := {}
      kind := .interface
      modifiers := ["sealed"]
      annotations := [{ value := .marker "Serializable" }]
      supertypes := []
      parameters := [] } []

/-- A class with the constructor property `type` that is a subtype of two roots. -/
def details : ClassDeclaration where
  name := "Details"
  nameSpan := ⟨138, 145, 4, 21⟩
  span := {}
  kind := .plain
  modifiers := []
  annotations := [{ value := .marker "Serializable" }]
  supertypes := [{ value := ⟨["Event"]⟩ }, { value := ⟨["Message"]⟩ }]
  parameters := [{ name := "type", span := {}, binding := some .val, annotations := [] }]
  members := []

/-- A file that declares two roots and a subtype of both. -/
def eventsFile : File where
  path := "Events.kt"
  imports := [{ value := .plain ["kotlinx", "serialization", "Serializable"] }]
  declarations := [emptyRoot "Event" ⟨73, 78, 2, 32⟩, emptyRoot "Message" ⟨110, 117, 3, 32⟩,
    .ofClass details.toClassHead []]

/-- The subtype of two roots has the same finding twice. -/
theorem details_reported_twice :
    (RuleSet.check ⟨"", [rule "type"], []⟩ eventsFile).findings =
      [findingFor eventsFile "type" details, findingFor eventsFile "type" details] := by
  decide

end KotlinLint.DiscriminatorClash
