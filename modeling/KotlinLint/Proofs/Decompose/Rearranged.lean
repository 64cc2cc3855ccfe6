import KotlinLint.Proofs.ContextLeak.Agreement
import KotlinLint.Proofs.DiscriminatorClash.Agreement
import KotlinLint.Proofs.NumberedClasses
import KotlinLint.Proofs.Rearrangement
import Mathlib.Data.List.Flatten

/-!
# The order of siblings

In a file whose classes have distinct names, a class can be told apart from the others by its name,
and a search finds the same class or the same property wherever it is declared. So the provided
rules find the same in the file and in every rearrangement of it, up to the order of the findings
(`Decompose.findings_perm_of_rearranged`).
-/

namespace KotlinLint

/-- Whether declarations can be told apart by their names as far as the rules ask for names: the
classes at any depth, and the properties of each class body. -/
structure DistinctlyNamed (declarations : List Declaration) : Prop where
  /-- No two classes have one name. -/
  classes : ((Declaration.classesIn declarations).map (·.name)).Nodup
  /-- No two properties of a class body have one name. -/
  properties : HasDistinctProperties declarations

/-- The classes among declarations are among those at any depth. -/
theorem Declaration.filterMap_class?_sublist (declarations : List Declaration) :
    (declarations.filterMap Declaration.class?).Sublist (Declaration.classesIn declarations) := by
  rw [Declaration.classesIn_eq_flatMap, List.filterMap_eq_flatMap_toList]
  apply List.Sublist.flatMap_right
  intro declaration _
  cases declaration with
  | ofClass head members =>
    rw [Declaration.classes]
    exact List.cons_sublist_cons.mpr (List.nil_sublist _)
  | ofObject head members => exact List.nil_sublist _
  | ofFunction function => exact List.nil_sublist _
  | ofProperty property => exact List.nil_sublist _

variable {file : File} {others : List Declaration}

/-- Every rule finds the same in a rearranged file, up to order, when it answers alike to the
visits of both files and does not mind the order in which it visits. -/
theorem Rule.visitAll_findings_perm {rule : Rule}
    (rearranged : Rearranged file.declarations others)
    (distinct : HasDistinctProperties file.declarations)
    (functions : HeadDecides fun visit => (rule.visit file visit).findings)
    (classes : ∀ (head : ClassHead) (members others : List Declaration),
      Rearranged members others → HasDistinctProperties members →
      (rule.visitClass file ⟨head, members⟩).findings.Perm
        (rule.visitClass file ⟨head, others⟩).findings)
    (visits : ∀ visit, (rule.visit file visit).findings.Perm
      (rule.visit (file.withDeclarations others) visit).findings) :
    (rule.visitAll file).findings.Perm
      (rule.visitAll (file.withDeclarations others)).findings := by
  have sameFile := rearranged.visitsIn_perm functions classes distinct none
  have sameVisits := List.Perm.flatMap_left (Declaration.visitsIn none others)
    fun visit _ => visits visit
  rw [visitAll_findings, visitAll_findings]
  exact (sameFile.trans sameVisits).append (visits .ofFile)

namespace ContextLeak

/-- The same classes are activities and fragments in a rearranged file. -/
theorem isHost_withDeclarations (rearranged : Rearranged file.declarations others)
    (distinct : ((Declaration.classesIn file.declarations).map (·.name)).Nodup)
    (declaration : ClassDeclaration) :
    isHost file declaration = isHost (file.withDeclarations others) declaration := by
  have profiles := rearranged.classesIn_profile
  exact isHost_congr (Hierarchy.extends_of_profiles profiles distinct)
    (Hierarchy.extends_of_profiles profiles.symm (rearranged.names_nodup distinct)) rfl

/-- The answers to visits are the same in a rearranged file. -/
theorem visit_findings_withDeclarations (rearranged : Rearranged file.declarations others)
    (distinct : ((Declaration.classesIn file.declarations).map (·.name)).Nodup) (visit : Visit) :
    (rule.visit file visit).findings =
      (rule.visit (file.withDeclarations others) visit).findings := by
  refine compare_visit_findings .eq (fun declaration function => ?_) visit
  have hosts := isHost_withDeclarations rearranged distinct declaration
  have same : answer? file (.ofFunction (some declaration) function) =
      answer? (file.withDeclarations others) (.ofFunction (some declaration) function) :=
    answer?_congr rfl rfl hosts rfl rfl
  rw [same]

/-- The head of the class around a function tells whether it is an activity or a fragment. -/
theorem headDecides (file : File) : HeadDecides fun visit => (rule.visit file visit).findings := by
  intro function first second heads
  simp only [visit_findings]
  cases first with
  | none =>
    cases second with
    | none => rfl
    | some other => cases heads
  | some declaration =>
    cases second with
    | none => cases heads
    | some other =>
      have same : declaration.toClassHead = other.toClassHead := Option.some.inj heads
      have supertypes : other.supertypeNames = declaration.supertypeNames := by
        rw [ClassDeclaration.supertypeNames, ClassDeclaration.supertypeNames, same]
      have hosts : isHost file declaration = isHost file other :=
        isHost_congr (.refl _) (.refl _) supertypes
      rw [answer?_congr rfl rfl hosts rfl rfl]

/-- The rule finds the same leaks in a rearranged file. -/
theorem visitAll_findings_perm (rearranged : Rearranged file.declarations others)
    (named : DistinctlyNamed file.declarations) :
    (rule.visitAll file).findings.Perm
      (rule.visitAll (file.withDeclarations others)).findings :=
  Rule.visitAll_findings_perm rearranged named.properties (headDecides file)
    (fun _ _ _ _ _ => .nil)
    fun visit => .of_eq (visit_findings_withDeclarations rearranged named.classes visit)

end ContextLeak

namespace DiscriminatorClash

variable (file) (discriminator : String)

/-- A class without two properties of one name has the same finding as any class of its
profile. -/
theorem finding?_of_profile {candidate other : ClassDeclaration}
    (distinct : (candidate.memberProperties.map (·.name)).Nodup)
    (same : candidate.profile = other.profile) :
    finding? file discriminator candidate = finding? file discriminator other := by
  have heads := ClassDeclaration.head_of_profile same
  have parameters : candidate.propertyParameters = other.propertyParameters := by
    rw [ClassDeclaration.propertyParameters, ClassDeclaration.propertyParameters, heads]
  have collisions : hasCollision file discriminator candidate =
      hasCollision file discriminator other := by
    rw [hasCollision, hasCollision, parameters,
      ClassDeclaration.findProperty?_of_profile same distinct]
  exact finding?_congr rfl (congrArg ClassHead.nameSpan heads) collisions

/-- Classes of the same profiles that are selected by their heads have the same findings. -/
theorem filter_findings_perm {first second : List ClassDeclaration} (selects : ClassHead → Bool)
    (profiles : (first.map ClassDeclaration.profile).Perm (second.map ClassDeclaration.profile))
    (distinct : ∀ candidate ∈ first, (candidate.memberProperties.map (·.name)).Nodup) :
    ((first.filter fun candidate => selects candidate.toClassHead).filterMap
        (finding? file discriminator)).Perm
      ((second.filter fun candidate => selects candidate.toClassHead).filterMap
        (finding? file discriminator)) := by
  have selected := ClassDeclaration.filter_profile selects profiles
  have found := perm_map_of_key selected fun candidate listed other _ same =>
    finding?_of_profile file discriminator (distinct candidate (List.mem_of_mem_filter listed)) same
  have kept := found.filterMap id
  rw [List.filterMap_map, List.filterMap_map] at kept
  exact kept

/-- The members of a class have the same findings in every order. -/
theorem memberFindings_perm (head : ClassHead) {members others : List Declaration}
    (rearranged : Rearranged members others) (distinct : HasDistinctProperties members) :
    (memberFindings file discriminator ⟨head, members⟩).Perm
      (memberFindings file discriminator ⟨head, others⟩) :=
  filter_findings_perm file discriminator (fun nested => serializable.isAmong nested.annotations)
    rearranged.siblings_profile fun candidate listed =>
      distinct candidate ((Declaration.filterMap_class?_sublist members).mem listed)

/-- The findings for the subtypes of a class among some classes, told apart from it by name. -/
def namedSubtypeFindings (classes : List ClassDeclaration) (root : ClassDeclaration) :
    List Finding :=
  (classes.filter fun candidate => candidate.name ≠ root.name &&
    candidate.isDirectSubtypeOf root.name &&
      serializable.isAmong candidate.annotations).filterMap (finding? file discriminator)

/-- Among classes with distinct names those at other places are those of other names. -/
theorem subtypeFindings_eq_of_distinct (distinct : (file.topClasses.map (·.name)).Nodup) :
    subtypeFindings file discriminator =
      (file.topClasses.filter isPolymorphicRoot).flatMap
        (namedSubtypeFindings file discriminator file.topClasses) := by
  refine flatMap_filter_zipIdx_fst file.topClasses isPolymorphicRoot ?_
  intro root rank listed
  have ranked := map_fst_filter_zipIdx distinct (fun candidate =>
    candidate.isDirectSubtypeOf root.name && serializable.isAmong candidate.annotations) listed
  simp only [← Bool.and_assoc] at ranked
  have found := congrArg (List.filterMap (finding? file discriminator)) ranked
  rw [List.filterMap_map] at found
  exact found

/-- The findings for the subtypes of the roots agree up to order. -/
theorem subtypeFindings_perm (rearranged : Rearranged file.declarations others)
    (named : DistinctlyNamed file.declarations) :
    (subtypeFindings file discriminator).Perm
      (subtypeFindings (file.withDeclarations others) discriminator) := by
  let before := file.topClasses
  let after := (file.withDeclarations others).topClasses
  have profiles : (before.map ClassDeclaration.profile).Perm (after.map ClassDeclaration.profile) :=
    rearranged.siblings_profile
  have placed : before.Sublist (Declaration.classesIn file.declarations) :=
    Declaration.filterMap_class?_sublist file.declarations
  have placedAfter : after.Sublist (Declaration.classesIn others) :=
    Declaration.filterMap_class?_sublist others
  have names : (before.map (·.name)).Nodup := named.classes.sublist (placed.map _)
  have namesAfter : (after.map (·.name)).Nodup :=
    (rearranged.names_nodup named.classes).sublist (placedAfter.map _)
  -- For each root the subtypes agree, and the roots are the same up to what the subtypes ask.
  have subtypes : ∀ root, (namedSubtypeFindings file discriminator before root).Perm
      (namedSubtypeFindings file discriminator after root) := by
    intro root
    exact filter_findings_perm file discriminator (fun head => head.name ≠ root.name &&
      (⟨head, []⟩ : ClassDeclaration).isDirectSubtypeOf root.name &&
        serializable.isAmong head.annotations) profiles
      fun candidate listed => named.properties candidate (placed.mem listed)
  have rootProfiles := ClassDeclaration.filter_profile (fun head => isPolymorphicRoot ⟨head, []⟩)
    profiles
  have roots : ((before.filter isPolymorphicRoot).map
        (namedSubtypeFindings file discriminator after)).Perm
      ((after.filter isPolymorphicRoot).map (namedSubtypeFindings file discriminator after)) := by
    refine perm_map_of_key rootProfiles ?_
    intro root _ other _ same
    rw [namedSubtypeFindings, namedSubtypeFindings, ClassDeclaration.head_of_profile same]
  rw [subtypeFindings_eq_of_distinct file discriminator names,
    subtypeFindings_eq_of_distinct (file.withDeclarations others) discriminator namesAfter]
  have inner := List.Perm.flatMap_left (before.filter isPolymorphicRoot) fun root _ => subtypes root
  exact inner.trans roots.flatten

/-- The report on a class has the same findings in every order of its members. -/
theorem visitClass_findings_perm (head : ClassHead) {members others : List Declaration}
    (rearranged : Rearranged members others) (distinct : HasDistinctProperties members) :
    (visitClass discriminator file ⟨head, members⟩).findings.Perm
      (visitClass discriminator file ⟨head, others⟩).findings := by
  have roots : isPolymorphicRoot ⟨head, members⟩ = isPolymorphicRoot ⟨head, others⟩ := rfl
  rw [visitClass, visitClass, roots]
  split
  · exact whenImported_compare .perm rfl
      (memberFindings_perm file discriminator head rearranged distinct)
  · exact .nil

/-- The rule finds the same clashes in a rearranged file. -/
theorem visitAll_findings_perm (rearranged : Rearranged file.declarations others)
    (named : DistinctlyNamed file.declarations) :
    ((rule discriminator).visitAll file).findings.Perm
      ((rule discriminator).visitAll (file.withDeclarations others)).findings := by
  have imports : file.hasImport serializableImport =
      (file.withDeclarations others).hasImport serializableImport := rfl
  refine Rule.visitAll_findings_perm rearranged named.properties (fun _ _ _ _ => rfl)
    (fun head _ _ => visitClass_findings_perm file discriminator head) fun visit => ?_
  cases visit with
  | ofClass declaration => exact .refl _
  | ofFunction enclosing function => exact .nil
  | ofFile =>
    exact whenImported_compare .perm imports
      (subtypeFindings_perm file discriminator rearranged named)

end DiscriminatorClash

/-- In a file whose classes, and the properties of each class body, have distinct names, the
provided rules find the same in whatever order siblings are declared. -/
theorem Decompose.findings_perm_of_rearranged {config : Config} {set : RuleSet}
    (accepted : Decompose.ruleSet config = .ok set) (named : DistinctlyNamed file.declarations)
    (rearranged : Rearranged file.declarations others) :
    (set.check file).findings.Perm (set.check (file.withDeclarations others)).findings :=
  Decompose.compare_findings .perm accepted
    (ContextLeak.visitAll_findings_perm rearranged named) fun discriminator =>
      DiscriminatorClash.visitAll_findings_perm file discriminator rearranged named

namespace Decompose

/-- A serializable class with the constructor property `type`. -/
def typedClass (name : String) (nameSpan : Span) : Declaration :=
  .ofClass
    { name := name
      nameSpan := nameSpan
      span := {}
      kind := .plain
      modifiers := []
      annotations := [{ value := .marker "Serializable" }]
      supertypes := [{ value := ⟨["Event"]⟩ }]
      parameters := [{ name := "type", span := {}, binding := some .val, annotations := [] }] } []

/-- A root of a serializable hierarchy with members. -/
def rootOf (members : List Declaration) : Declaration :=
  .ofClass
    { name := "Event"
      nameSpan := ⟨73, 78, 2, 32⟩
      span := {}
      kind := .interface
      modifiers := ["sealed"]
      annotations := [{ value := .marker "Serializable" }]
      supertypes := []
      parameters := [] } members

/-- A file with a root before its subtype at top level. -/
def orderedFile : File where
  path := "Events.kt"
  imports := [{ value := DiscriminatorClash.serializableImport }]
  declarations :=
    [rootOf [typedClass "Started" ⟨98, 105, 3, 18⟩, typedClass "Stopped" ⟨137, 144, 4, 18⟩],
      typedClass "Paused" ⟨180, 186, 6, 16⟩]

/-- The declarations of the file with siblings in other places, at top level and in the root. -/
def reordered : List Declaration :=
  [typedClass "Paused" ⟨180, 186, 6, 16⟩,
    rootOf [typedClass "Stopped" ⟨137, 144, 4, 18⟩, typedClass "Started" ⟨98, 105, 3, 18⟩]]

/-- The same findings are made in another order when members and subtypes change places. -/
theorem orderedFile_findings_perm :
    ruleSet {} = .ok defaultSet ∧ DistinctlyNamed orderedFile.declarations ∧
      Rearranged orderedFile.declarations reordered ∧
      (defaultSet.check orderedFile).findings.length = 3 ∧
      (defaultSet.check orderedFile).findings.Perm
        (defaultSet.check (orderedFile.withDeclarations reordered)).findings := by
  have properties : HasDistinctProperties orderedFile.declarations := by
    rw [HasDistinctProperties]
    decide
  have named : DistinctlyNamed orderedFile.declarations := ⟨by decide, properties⟩
  have rearranged : Rearranged orderedFile.declarations reordered :=
    .trans (.inClass (.permuted (.swap _ _ _))) (.permuted (.swap _ _ _))
  exact ⟨ruleSet_default, named, rearranged, by decide,
    findings_perm_of_rearranged ruleSet_default named rearranged⟩

end Decompose

end KotlinLint
