import KotlinLint.Proofs.Decompose
import KotlinLint.Proofs.Inheritance
import KotlinLint.Proofs.Keys
import KotlinLint.Proofs.Property
import Mathlib.Data.Multiset.MapFold

/-!
# Rearranged declarations

Declarations are rearranged when siblings change places, in the file itself or in the body of any
class or object, as often as one likes (`Rearranged`). A class keeps its head and the properties
of its body, up to their order, and this is its profile. A rearrangement loses no profile and adds
none (`Rearranged.classesIn_profile`), and answers to visits that are decided by profiles agree up
to order (`Rearranged.visitsIn_perm`).
-/

namespace KotlinLint

/-- Whether declarations become others when siblings change places at any depth. Since siblings
change places, any of them can be the first, and only the first is gone into. -/
inductive Rearranged : List Declaration → List Declaration → Prop where
  /-- The declarations themselves change places. -/
  | permuted {first second : List Declaration} : first.Perm second → Rearranged first second
  /-- The members of the first declaration change places, which is a class. -/
  | inClass {head : ClassHead} {members others rest : List Declaration} :
      Rearranged members others →
      Rearranged (.ofClass head members :: rest) (.ofClass head others :: rest)
  /-- The members of the first declaration change places, which is an object. -/
  | inObject {head : ObjectHead} {members others rest : List Declaration} :
      Rearranged members others →
      Rearranged (.ofObject head members :: rest) (.ofObject head others :: rest)
  /-- Places are changed more than once. -/
  | trans {first second third : List Declaration} :
      Rearranged first second → Rearranged second third → Rearranged first third

/-- What a rearrangement leaves of a class: its head, and the properties of its body without their
order. -/
def ClassDeclaration.profile (declaration : ClassDeclaration) :
    ClassHead × Multiset PropertyDeclaration :=
  (declaration.toClassHead, declaration.memberProperties)

/-- Whether no class body among some declarations and their members declares two properties of
one name. -/
def HasDistinctProperties (declarations : List Declaration) : Prop :=
  ∀ declaration ∈ Declaration.classesIn declarations,
    (declaration.memberProperties.map (·.name)).Nodup

namespace ClassDeclaration

/-- Classes of one profile have one head. -/
theorem head_of_profile {first second : ClassDeclaration} (same : first.profile = second.profile) :
    first.toClassHead = second.toClassHead := congrArg Prod.fst same

/-- Classes of one profile have the same properties in their bodies, up to order. -/
theorem memberProperties_of_profile {first second : ClassDeclaration}
    (same : first.profile = second.profile) :
    first.memberProperties.Perm second.memberProperties :=
  Multiset.coe_eq_coe.mp (congrArg Prod.snd same)

/-- In a class without two properties of one name the profile decides what a search for a property
finds. -/
theorem findProperty?_of_profile {first second : ClassDeclaration}
    (same : first.profile = second.profile)
    (distinct : (first.memberProperties.map (·.name)).Nodup) (name : String) :
    first.findProperty? name = second.findProperty? name := by
  have parameters : first.parameters = second.parameters :=
    congrArg ClassHead.parameters (head_of_profile same)
  have members := find?_key_of_perm (memberProperties_of_profile same) distinct name
  rw [findProperty?_eq_or, findProperty?_eq_or, members, propertyParameters, propertyParameters,
    parameters]

/-- Classes of the same profiles are of the same profiles after a selection by their heads. -/
theorem filter_profile {first second : List ClassDeclaration} (selects : ClassHead → Bool)
    (profiles : (first.map profile).Perm (second.map profile)) :
    ((first.filter fun declaration => selects declaration.toClassHead).map profile).Perm
      ((second.filter fun declaration => selects declaration.toClassHead).map profile) := by
  have selected := profiles.filter fun kept => selects kept.1
  rw [List.filter_map, List.filter_map] at selected
  exact selected

end ClassDeclaration

/-- A hierarchy with classes of the same profiles knows the same supertypes, when the classes have
distinct names. -/
theorem Hierarchy.extends_of_profiles {first second : Hierarchy}
    (profiles : (first.classes.map ClassDeclaration.profile).Perm
      (second.classes.map ClassDeclaration.profile))
    (distinct : (first.classes.map (·.name)).Nodup) : second.Extends first := by
  intro name parent found
  have names : ((first.classes.map ClassDeclaration.profile).map (·.1.name)).Nodup := by
    rw [List.map_map]
    exact distinct
  have search : ∀ hierarchy : Hierarchy,
      (hierarchy.classes.map ClassDeclaration.profile).find? (·.1.name = name) =
        (hierarchy.get? name).map ClassDeclaration.profile := by
    intro hierarchy
    rw [List.find?_map]
    rfl
  have same := find?_key_of_perm profiles names name
  rw [search, search, found, Option.map_some] at same
  obtain ⟨other, known, profile⟩ := Option.map_eq_some_iff.mp same.symm
  refine ⟨other, known, ?_⟩
  rw [ClassDeclaration.supertypeNames, ClassDeclaration.supertypeNames,
    ClassDeclaration.head_of_profile profile]

namespace Rearranged

variable {first second : List Declaration}

/-- The properties among rearranged declarations are the same up to order. -/
theorem properties_perm (rearranged : Rearranged first second) :
    (first.filterMap Declaration.property?).Perm (second.filterMap Declaration.property?) := by
  induction rearranged with
  | permuted same => exact same.filterMap _
  | inClass _ _ => exact List.Perm.refl _
  | inObject _ _ => exact List.Perm.refl _
  | trans _ _ left right => exact left.trans right

/-- A class keeps its profile when its members are rearranged. -/
theorem profile_eq {members others : List Declaration} (head : ClassHead)
    (rearranged : Rearranged members others) :
    ClassDeclaration.profile ⟨head, members⟩ = ClassDeclaration.profile ⟨head, others⟩ := by
  have properties : ((members.filterMap Declaration.property? : List PropertyDeclaration) :
      Multiset PropertyDeclaration) = others.filterMap Declaration.property? :=
    Multiset.coe_eq_coe.mpr rearranged.properties_perm
  exact congrArg (Prod.mk head) properties

/-- The classes among rearranged declarations have the same profiles up to order. -/
theorem siblings_profile (rearranged : Rearranged first second) :
    ((first.filterMap Declaration.class?).map ClassDeclaration.profile).Perm
      ((second.filterMap Declaration.class?).map ClassDeclaration.profile) := by
  induction rearranged with
  | permuted same => exact (same.filterMap _).map _
  | @inClass head members others rest inner _ =>
    show (ClassDeclaration.profile ⟨head, members⟩ :: _).Perm
      (ClassDeclaration.profile ⟨head, others⟩ :: _)
    rw [inner.profile_eq head]
  | inObject _ _ => exact List.Perm.refl _
  | trans _ _ left right => exact left.trans right

/-- The classes at any depth have the same profiles up to order. -/
theorem classesIn_profile (rearranged : Rearranged first second) :
    ((Declaration.classesIn first).map ClassDeclaration.profile).Perm
      ((Declaration.classesIn second).map ClassDeclaration.profile) := by
  induction rearranged with
  | permuted same =>
    rw [Declaration.classesIn_eq_flatMap, Declaration.classesIn_eq_flatMap]
    exact (same.flatMap_right _).map _
  | @inClass head members others rest inner ih =>
    simp only [Declaration.classesIn, Declaration.classes, List.cons_append, List.map_cons,
      List.map_append]
    rw [inner.profile_eq head]
    exact (ih.append_right _).cons _
  | inObject _ ih =>
    simp only [Declaration.classesIn, Declaration.classes, List.map_append]
    exact ih.append_right _
  | trans _ _ left right => exact left.trans right

/-- No class body gets two properties of one name. -/
theorem hasDistinctProperties (rearranged : Rearranged first second)
    (distinct : HasDistinctProperties first) : HasDistinctProperties second := by
  intro declaration listed
  have profiles := rearranged.classesIn_profile.mem_iff.mpr (List.mem_map_of_mem listed)
  obtain ⟨counterpart, isCounterpart, same⟩ := List.mem_map.mp profiles
  have properties := ClassDeclaration.memberProperties_of_profile same
  exact (properties.map _).nodup_iff.mp (distinct counterpart isCounterpart)

/-- Names of classes stay distinct. -/
theorem names_nodup (rearranged : Rearranged first second)
    (distinct : ((Declaration.classesIn first).map (·.name)).Nodup) :
    ((Declaration.classesIn second).map (·.name)).Nodup := by
  have names := rearranged.classesIn_profile.map (·.1.name)
  rw [List.map_map, List.map_map] at names
  exact names.nodup_iff.mp distinct

end Rearranged

/-- Whether the answers about a function are decided by the function and the head of the class
around it. -/
def HeadDecides (answer : Visit → List Finding) : Prop :=
  ∀ (function : FunctionDeclaration) (first second : Option ClassDeclaration),
    first.map ClassDeclaration.toClassHead = second.map ClassDeclaration.toClassHead →
    answer (.ofFunction first function) = answer (.ofFunction second function)

section Visits

variable {answer : Visit → List Finding}

mutual

/-- Of the class around a declaration only the head decides the answers. -/
theorem Declaration.visits_congr (functions : HeadDecides answer)
    {first second : Option ClassDeclaration}
    (heads : first.map ClassDeclaration.toClassHead = second.map ClassDeclaration.toClassHead) :
    ∀ declaration : Declaration,
      (declaration.visits first).flatMap answer = (declaration.visits second).flatMap answer
  | .ofClass _ _ => rfl
  | .ofObject _ members => Declaration.visitsIn_congr functions heads members
  | .ofFunction function => by
    rw [Declaration.visits, Declaration.visits, List.flatMap_singleton, List.flatMap_singleton]
    exact functions function first second heads
  | .ofProperty _ => rfl

/-- Of the class around a list of declarations only the head decides the answers. -/
theorem Declaration.visitsIn_congr (functions : HeadDecides answer)
    {first second : Option ClassDeclaration}
    (heads : first.map ClassDeclaration.toClassHead = second.map ClassDeclaration.toClassHead) :
    ∀ declarations : List Declaration,
      (Declaration.visitsIn first declarations).flatMap answer =
        (Declaration.visitsIn second declarations).flatMap answer
  | [] => rfl
  | declaration :: rest => by
    rw [Declaration.visitsIn, Declaration.visitsIn, List.flatMap_append, List.flatMap_append,
      Declaration.visits_congr functions heads declaration,
      Declaration.visitsIn_congr functions heads rest]

end

/-- The answers to the visits of rearranged declarations agree up to order when the answer to the
visit of a class does not depend on the order of its members. -/
theorem Rearranged.visitsIn_perm (functions : HeadDecides answer)
    (classes : ∀ (head : ClassHead) (members others : List Declaration),
      Rearranged members others → HasDistinctProperties members →
      (answer (.ofClass ⟨head, members⟩)).Perm (answer (.ofClass ⟨head, others⟩)))
    {first second : List Declaration} (rearranged : Rearranged first second)
    (distinct : HasDistinctProperties first) (outer : Option ClassDeclaration) :
    ((Declaration.visitsIn outer first).flatMap answer).Perm
      ((Declaration.visitsIn outer second).flatMap answer) := by
  induction rearranged generalizing outer with
  | permuted same =>
    rw [Declaration.visitsIn_eq_flatMap, Declaration.visitsIn_eq_flatMap]
    exact (same.flatMap_right _).flatMap_right _
  | @inClass head members others rest inner ih =>
    have below : HasDistinctProperties members := fun declaration listed =>
      distinct declaration (List.mem_append_left _ (List.mem_cons_of_mem _ listed))
    have heads : (some (⟨head, members⟩ : ClassDeclaration)).map ClassDeclaration.toClassHead =
        (some (⟨head, others⟩ : ClassDeclaration)).map ClassDeclaration.toClassHead := rfl
    have inside := ih below (some ⟨head, members⟩)
    rw [Declaration.visitsIn_congr functions heads others] at inside
    simp only [Declaration.visitsIn, Declaration.visits, List.flatMap_append,
      List.flatMap_singleton]
    exact (inside.append (classes head members others inner below)).append_right _
  | @inObject head members others rest _ ih =>
    have below : HasDistinctProperties members := fun declaration listed =>
      distinct declaration (List.mem_append_left _ listed)
    simp only [Declaration.visitsIn, Declaration.visits, List.flatMap_append]
    exact (ih below outer).append_right _
  | trans left _ ihLeft ihRight =>
    exact (ihLeft distinct outer).trans (ihRight (left.hasDistinctProperties distinct) outer)

end Visits

end KotlinLint
