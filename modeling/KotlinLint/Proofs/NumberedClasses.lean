import KotlinLint.File
import Mathlib.Data.List.Nodup

/-!
# Classes with their positions

The classes among some declarations are numbered by their positions among these declarations,
which tell two classes apart even when they are declared alike. A search that tells values apart by
their rank among the values finds the same as one that does so by distinct keys
(`map_fst_filter_zipIdx`), such as the positions of classes (`map_filter_zipIdx`).
-/

namespace KotlinLint

/-- The classes among some declarations, with their positions. -/
def numberedClasses (declarations : List Declaration) : List (Nat × ClassDeclaration) :=
  declarations.zipIdx.filterMap fun (declaration, position) =>
    declaration.class?.map fun found => (position, found)

/-- A class is numbered with the position at which it is declared. -/
theorem mem_numberedClasses_iff {declarations : List Declaration} {position : Nat}
    {declaration : ClassDeclaration} : (position, declaration) ∈ numberedClasses declarations ↔
      declarations[position]?.bind Declaration.class? = some declaration := by
  rw [numberedClasses, List.mem_filterMap, Option.bind_eq_some_iff]
  constructor
  · intro listed
    obtain ⟨⟨found, place⟩, member, same⟩ := listed
    obtain ⟨declared, declares, pair⟩ := Option.map_eq_some_iff.mp same
    injection pair with positions classes
    rw [positions] at member
    rw [classes] at declares
    exact ⟨found, List.mk_mem_zipIdx_iff_getElem?.mp member, declares⟩
  · intro declared
    obtain ⟨found, member, declares⟩ := declared
    refine ⟨(found, position), List.mk_mem_zipIdx_iff_getElem?.mpr member, ?_⟩
    exact Option.map_eq_some_iff.mpr ⟨declaration, declares, rfl⟩

/-- Without their positions the classes are those among the declarations. -/
theorem numberedClasses_map_snd (declarations : List Declaration) :
    (numberedClasses declarations).map Prod.snd = declarations.filterMap Declaration.class? := by
  have plain : (fun numbered : Declaration × Nat =>
      (numbered.1.class?.map fun found => (numbered.2, found)).map Prod.snd) =
        Declaration.class? ∘ Prod.fst := by
    funext numbered
    rw [Option.map_map]
    exact Option.map_id'
  rw [numberedClasses, List.map_filterMap, plain, ← List.filterMap_map, List.zipIdx_map_fst]

/-- No two classes have one position. -/
theorem numberedClasses_nodup (declarations : List Declaration) :
    ((numberedClasses declarations).map Prod.fst).Nodup := by
  have positions : (declarations.zipIdx.map Prod.snd).Nodup := by
    rw [List.zipIdx_map_snd]
    exact List.nodup_range'
  rw [List.Nodup, List.pairwise_map]
  refine (List.pairwise_map.mp positions).filterMap _ ?_
  intro first second differ numbered isFirst other isSecond same
  obtain ⟨found, _, rfl⟩ := Option.map_eq_some_iff.mp isFirst
  obtain ⟨declared, _, rfl⟩ := Option.map_eq_some_iff.mp isSecond
  exact differ same

section Lists

variable {α β κ : Type}

/-- Among values with distinct keys, those that differ from one by their rank in the list are those
that differ from it by their key. -/
theorem map_fst_filter_zipIdx [DecidableEq κ] {key : α → κ} {values : List α}
    (distinct : (values.map key).Nodup) (holds : α → Bool) {value : α} {rank : Nat}
    (listed : (value, rank) ∈ values.zipIdx) :
    (values.zipIdx.filter fun (found, other) => other ≠ rank && holds found).map Prod.fst =
      values.filter fun found => key found ≠ key value && holds found := by
  have sameRank : ∀ (found : α) (other : Nat), (found, other) ∈ values.zipIdx →
      (other = rank ↔ key found = key value) := by
    intro found other member
    have isFound := List.mk_mem_zipIdx_iff_getElem?.mp member
    have isValue := List.mk_mem_zipIdx_iff_getElem?.mp listed
    constructor
    · intro same
      rw [same, isValue] at isFound
      rw [Option.some.inj isFound]
    · intro same
      have inside : other < values.length := (List.getElem?_eq_some_iff.mp isFound).1
      have keys : (values.map key)[other]? = (values.map key)[rank]? := by
        rw [List.getElem?_map, List.getElem?_map, isFound, isValue, Option.map_some,
          Option.map_some, same]
      have bound : other < (values.map key).length := by
        rw [List.length_map]
        exact inside
      exact (List.getElem?_inj bound distinct).mp keys
  have agree : values.zipIdx.filter (fun (found, other) => other ≠ rank && holds found) =
      values.zipIdx.filter (fun (found, _) => key found ≠ key value && holds found) := by
    apply List.filter_congr
    intro pair member
    have same : pair.2 ≠ rank ↔ key pair.1 ≠ key value :=
      not_congr (sameRank pair.1 pair.2 member)
    show (decide (pair.2 ≠ rank) && holds pair.1) =
      (decide (key pair.1 ≠ key value) && holds pair.1)
    rw [decide_eq_decide.mpr same]
  have plain := congrArg (List.filter fun found => decide (key found ≠ key value) && holds found)
    (List.zipIdx_map_fst 0 values)
  rw [agree, ← plain, List.filter_map]
  rfl

/-- Answers to the values that pass a test do not depend on the ranks of the values when no single
answer does. -/
theorem flatMap_filter_zipIdx_fst (values : List α) (holds : α → Bool)
    {byRank : α × Nat → List β} {byValue : α → List β}
    (agree : ∀ value rank, (value, rank) ∈ values.zipIdx →
      byRank (value, rank) = byValue value) :
    (values.zipIdx.filter fun (found, _) => holds found).flatMap byRank =
      (values.filter holds).flatMap byValue := by
  have plain := congrArg (fun list => (list.filter holds).flatMap byValue)
    (List.zipIdx_map_fst 0 values)
  rw [← plain, List.filter_map, List.flatMap_map]
  exact List.flatMap_congr fun pair member =>
    agree pair.1 pair.2 (List.mem_of_mem_filter member)

/-- Among numbered values, those that differ from one by their rank in the list are those that
differ from it by their number. -/
theorem map_filter_zipIdx {numbered : List (κ × α)} [DecidableEq κ]
    (apart : (numbered.map Prod.fst).Nodup) (holds : α → Bool) {value : κ × α} {rank : Nat}
    (listed : (value, rank) ∈ numbered.zipIdx) :
    ((numbered.map Prod.snd).zipIdx.filter fun (found, other) =>
        other ≠ rank && holds found).map Prod.fst =
      (numbered.filter fun (other, found) => other ≠ value.1 && holds found).map Prod.snd := by
  have ranked : (numbered.map Prod.snd).zipIdx =
      numbered.zipIdx.map fun (found, other) => (found.2, other) := List.zipIdx_map
  have plain := map_fst_filter_zipIdx apart (fun pair => holds pair.2) listed
  rw [ranked, List.filter_map, List.map_map, ← plain, List.map_map]
  rfl

/-- A search from the values that pass a test, told apart by their rank, goes on as one from the
numbered values when each single step does. -/
theorem flatMap_filter_zipIdx (numbered : List (κ × α)) (holds : α → Bool)
    {byRank : α × Nat → List β} {byNumber : κ × α → List β}
    (agree : ∀ value rank, (value, rank) ∈ numbered.zipIdx →
      byRank (value.2, rank) = byNumber value) :
    ((numbered.map Prod.snd).zipIdx.filter fun (found, _) => holds found).flatMap byRank =
      (numbered.filter fun (_, found) => holds found).flatMap byNumber := by
  have ranked : (numbered.map Prod.snd).zipIdx =
      numbered.zipIdx.map fun (found, other) => (found.2, other) := List.zipIdx_map
  rw [ranked, List.filter_map, List.flatMap_map]
  exact flatMap_filter_zipIdx_fst numbered (fun pair => holds pair.2) agree

/-- A list made of parts is free of duplicates when each part is and when every member of a part
tells to which part it belongs. -/
theorem nodup_flatMap_of_key {parts : List α} {members : α → List β} (home : α → κ) (key : β → κ)
    (apart : (parts.map home).Nodup) (each : ∀ part ∈ parts, (members part).Nodup)
    (keyed : ∀ part ∈ parts, ∀ member ∈ members part, key member = home part) :
    (parts.flatMap members).Nodup := by
  rw [List.nodup_flatMap]
  refine ⟨each, ?_⟩
  have homes := List.pairwise_map.mp apart
  refine homes.imp_of_mem ?_
  intro first second isFirst isSecond differ member inFirst inSecond
  apply differ
  rw [← keyed first isFirst member inFirst, keyed second isSecond member inSecond]

/-- In a list without duplicates a value is taken more than once exactly when two members have
it. -/
theorem one_lt_count_map_iff [BEq β] [LawfulBEq β] {list : List α} (nodup : list.Nodup)
    (value : α → β) (target : β) : 1 < (list.map value).count target ↔
      ∃ first ∈ list, ∃ second ∈ list,
        first ≠ second ∧ value first = target ∧ value second = target := by
  have counted : (list.map value).count target =
      (list.filter fun member => value member == target).length := by
    rw [List.count, List.countP_map, List.countP_eq_length_filter]
    rfl
  have distinct : (list.filter fun member => value member == target).Nodup := nodup.filter _
  rw [counted]
  constructor
  · intro more
    match found : list.filter (fun member => value member == target) with
    | [] =>
      rw [found, List.length_nil] at more
      omega
    | [first] =>
      rw [found, List.length_singleton] at more
      omega
    | first :: second :: rest =>
      have isFirst : first ∈ list.filter fun member => value member == target := by
        rw [found]
        exact List.mem_cons_self
      have isSecond : second ∈ list.filter fun member => value member == target := by
        rw [found]
        exact List.mem_cons_of_mem _ List.mem_cons_self
      rw [List.mem_filter, beq_iff_eq] at isFirst isSecond
      rw [found, List.nodup_cons] at distinct
      have differ : first ≠ second := by
        intro same
        apply distinct.1
        rw [same]
        exact List.mem_cons_self
      exact ⟨first, isFirst.1, second, isSecond.1, differ, isFirst.2, isSecond.2⟩
  · intro pair
    obtain ⟨first, inFirst, second, inSecond, differ, hasFirst, hasSecond⟩ := pair
    have isFirst : first ∈ list.filter fun member => value member == target := by
      rw [List.mem_filter, beq_iff_eq]
      exact ⟨inFirst, hasFirst⟩
    have isSecond : second ∈ list.filter fun member => value member == target := by
      rw [List.mem_filter, beq_iff_eq]
      exact ⟨inSecond, hasSecond⟩
    match found : list.filter (fun member => value member == target) with
    | [] =>
      rw [found] at isFirst
      exact absurd isFirst List.not_mem_nil
    | [only] =>
      rw [found, List.mem_singleton] at isFirst isSecond
      exact absurd (isFirst.trans isSecond.symm) differ
    | one :: other :: rest =>
      rw [List.length_cons, List.length_cons]
      omega

end Lists

end KotlinLint
