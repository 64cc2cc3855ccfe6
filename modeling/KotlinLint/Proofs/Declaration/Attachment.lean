import KotlinLint.Proofs.Declaration.Walk
import Mathlib.Data.List.Nodup
import Mathlib.Data.List.Pairwise

/-!
# Annotations beside declarations

The declarations that a search finds divide its walk into stretches, each of the stops since the
last declaration and then a declaration (`DividedInto`). What the search answers are these
declarations in the order of the walk, each with the annotations of its stretch in front of its
own (`Declaration.ofNodes_eq_outputs`). So an annotation goes to the next declaration and to no
other, and the annotations in the body of a class or an object, which is a search of its own, stay
in it.
-/

namespace KotlinLint

/-- The stops of a walk since the last declaration, up to and with the next one. -/
structure Stretch where
  /-- The stops before the declaration. -/
  before : List Stop
  /-- The stop at the declaration. -/
  last : Stop
  /-- The declaration as its node writes it. -/
  written : Declaration

/-- The annotations that are read at some stops, in order. -/
def annotationsAt (source : Source) (stops : List Stop) : List (Placed AnnotationEntry) :=
  stops.filterMap (Stop.annotation? source)

namespace Stretch

/-- The stops of a stretch. -/
def stops (stretch : Stretch) : List Stop := stretch.before ++ [stretch.last]

/-- The declaration with the annotations of its stretch. -/
def output (source : Source) (stretch : Stretch) : Declaration :=
  stretch.written.prependAnnotations (annotationsAt source stretch.before)

end Stretch

/-- Whether some stops are divided into stretches by the declarations that are read there. -/
structure DividedInto (source : Source) (stops : List Stop) (stretches : List Stretch)
    (left : List Stop) : Prop where
  /-- The stretches follow each other, and the stops that are left follow the stretches. -/
  whole : stops = stretches.flatMap Stretch.stops ++ left
  /-- A stretch ends with a declaration. -/
  ends : ∀ stretch ∈ stretches, stretch.last.declaration? source = some stretch.written
  /-- No declaration is read in a stretch before its end. -/
  before : ∀ stretch ∈ stretches, ∀ stop ∈ stretch.before, stop.declaration? source = none
  /-- No declaration is read after the stretches. -/
  after : ∀ stop ∈ left, stop.declaration? source = none

/-- Whether each annotation that is read at some stops is in one stretch, unless no declaration
follows. -/
structure AttachedOnce (source : Source) (stops : List Stop) (stretches : List Stretch) :
    Prop where
  /-- No stop is before two declarations. -/
  atMost : ∀ stop, ∀ first ∈ stretches, ∀ second ∈ stretches,
    stop ∈ first.before → stop ∈ second.before → first = second
  /-- An annotation that a declaration follows is before a declaration. -/
  atLeast : ∀ earlier stop later, stops = earlier ++ stop :: later →
    (stop.annotation? source).isSome → (∃ stretch ∈ stretches, stretch.last ∈ later) →
    ∃ stretch ∈ stretches, stop ∈ stretch.before

/-- What holds of a declaration that a search below a node answers. -/
structure Stretch.AnsweredBelow (source : Source) (node : Node) (stretch : Stretch) : Prop where
  /-- A path leads from the node to that of the declaration. -/
  leads : Path.follow? Node.children node.children stretch.last.path = some stretch.last.node
  /-- Neither the declaration nor what is beside it is in a closed node or in a declaration. -/
  outside : ∀ stop ∈ stretch.stops, ∀ outer passed, Path.Inside stop.path outer →
    Path.follow? Node.children node.children outer = some passed →
    isMemberless passed.kind = false ∧ passed.kind ∉ Declaration.nodeKinds
  /-- The annotations of the stretch are followed by the declaration's own. -/
  annotations : (stretch.output source).annotations =
    annotationsAt source stretch.before ++ stretch.last.node.ownAnnotations source
  /-- The members are what a search in the body answers, which starts without annotations. -/
  members : (stretch.output source).members =
    Declaration.ofNodes source (Declaration.innerNodes stretch.last.node)

namespace Declaration

/-- Annotations that are put in front come before those that a declaration has. -/
theorem annotations_prependAnnotations (leading : List (Placed AnnotationEntry))
    (declaration : Declaration) :
    (declaration.prependAnnotations leading).annotations = leading ++ declaration.annotations := by
  cases declaration <;> rfl

/-- Annotations that are put in front leave the members alone. -/
theorem members_prependAnnotations (leading : List (Placed AnnotationEntry))
    (declaration : Declaration) :
    (declaration.prependAnnotations leading).members = declaration.members := by
  cases declaration <;> rfl

end Declaration

section Stops

variable (source : Source)

/-- What is read at a stop before any declaration is an annotation or nothing. -/
theorem Stop.item?_of_not_declares {stop : Stop} (noDeclaration : stop.declaration? source = none) :
    stop.item? source = (stop.annotation? source).map .annotationEntry := by
  rw [Stop.item?, noDeclaration, Option.map_none, Option.or_none]

/-- A stop at a declaration is no annotation. -/
theorem Stop.annotation?_of_declares {stop : Stop} {written : Declaration}
    (reads : stop.declaration? source = some written) : stop.annotation? source = none := by
  have kinds := Declaration.kind_mem_nodeKinds reads
  refine if_neg fun annotates => ?_
  rw [annotates] at kinds
  exact absurd kinds (by decide)

/-- What is read at a stop at a declaration is the declaration. -/
theorem Stop.item?_of_declares {stop : Stop} {written : Declaration}
    (reads : stop.declaration? source = some written) :
    stop.item? source = some (.declaration written) := by
  rw [Stop.item?, Stop.annotation?_of_declares source reads, reads]
  rfl

/-- Behind stops without a declaration, any stops are divided into stretches by the declarations
that are read there, and these get the annotations of their stretches. -/
theorem exists_dividedInto (passed stops : List Stop)
    (pending : ∀ stop ∈ passed, stop.declaration? source = none) :
    ∃ stretches left, DividedInto source (passed ++ stops) stretches left ∧
      Declaration.attach (annotationsAt source passed) (stops.filterMap (Stop.item? source)) =
        stretches.map (Stretch.output source) := by
  -- The annotations that wait for a declaration are those of the stops passed since the last one.
  induction stops generalizing passed with
  | nil =>
    have divided : DividedInto source (passed ++ []) [] passed :=
      ⟨List.append_nil _, List.forall_mem_nil _, List.forall_mem_nil _, pending⟩
    refine ⟨[], passed, divided, ?_⟩
    rw [List.filterMap_nil, Declaration.attach, List.map_nil]
  | cons stop rest ih =>
    cases reads : stop.declaration? source with
    | some written =>
      obtain ⟨stretches, left, divided, attached⟩ := ih [] (List.forall_mem_nil _)
      refine ⟨⟨passed, stop, written⟩ :: stretches, left, ⟨?_, ?_, ?_, divided.after⟩, ?_⟩
      · rw [List.flatMap_cons, Stretch.stops, List.append_assoc, List.append_assoc,
          ← divided.whole]
        rfl
      · exact List.forall_mem_cons.mpr ⟨reads, divided.ends⟩
      · exact List.forall_mem_cons.mpr ⟨pending, divided.before⟩
      · rw [List.filterMap_cons, Stop.item?_of_declares source reads, List.map_cons, ← attached]
        rfl
    | none =>
      have stillPending : ∀ other ∈ passed ++ [stop], other.declaration? source = none := by
        intro other listed
        rcases List.mem_append.mp listed with earlier | here
        · exact pending other earlier
        · rw [List.mem_singleton.mp here, reads]
      obtain ⟨stretches, left, divided, attached⟩ := ih (passed ++ [stop]) stillPending
      rw [List.append_assoc, List.singleton_append] at divided
      refine ⟨stretches, left, divided, ?_⟩
      rw [← attached, annotationsAt, annotationsAt, List.filterMap_append, List.filterMap_cons,
        List.filterMap_cons, List.filterMap_nil, Stop.item?_of_not_declares source reads]
      cases stop.annotation? source with
      | none =>
        rw [List.append_nil]
        rfl
      | some entry => rfl

/-- The declarations among some nodes divide a walk into stretches, and are what these answer. -/
theorem exists_stretches (nodes : List Node) :
    ∃ stretches left, DividedInto source (walk nodes) stretches left ∧
      Declaration.ofNodes source nodes = stretches.map (Stretch.output source) := by
  obtain ⟨stretches, left, divided, attached⟩ :=
    exists_dividedInto source [] (walk nodes) (List.forall_mem_nil _)
  rw [List.nil_append] at divided
  refine ⟨stretches, left, divided, ?_⟩
  rw [Declaration.ofNodes, Declaration.items_eq]
  exact attached

end Stops

namespace DividedInto

variable {source : Source} {stops : List Stop} {stretches : List Stretch} {left : List Stop}

/-- A stop at which no declaration is read is in a stretch when a stretch ends behind it. -/
theorem mem_before (divided : DividedInto source stops stretches left) {earlier later : List Stop}
    {stop : Stop} (split : stops = earlier ++ stop :: later)
    (noDeclaration : stop.declaration? source = none)
    (followed : ∃ stretch ∈ stretches, stretch.last ∈ later) :
    ∃ stretch ∈ stretches, stop ∈ stretch.before := by
  obtain ⟨next, isNext, follows⟩ := followed
  have notLeft : next.last ∉ left := by
    intro listed
    exact absurd ((divided.ends next isNext).symm.trans (divided.after _ listed)) nofun
  have inStretch : stop ∈ stretches.flatMap Stretch.stops := by
    rcases List.append_eq_append_iff.mp (divided.whole.symm.trans split) with
      ⟨between, _, isLeft⟩ | ⟨between, isStretches, rest⟩
    · rw [isLeft] at notLeft
      exact absurd (List.mem_append_right _ (List.mem_cons_of_mem _ follows)) notLeft
    · match between with
      | [] =>
        rw [List.nil_append] at rest
        rw [← rest] at notLeft
        exact absurd (List.mem_cons_of_mem _ follows) notLeft
      | first :: more =>
        cases rest
        rw [isStretches]
        exact List.mem_append_right _ List.mem_cons_self
  obtain ⟨stretch, listed, isStop⟩ := List.mem_flatMap.mp inStretch
  rcases List.mem_append.mp isStop with isBefore | isLast
  · exact ⟨stretch, listed, isBefore⟩
  · rw [List.mem_singleton.mp isLast, divided.ends stretch listed] at noDeclaration
    cases noDeclaration

/-- Stops that are all different are each in one stretch at most. -/
theorem eq_of_mem_stops (divided : DividedInto source stops stretches left) (nodup : stops.Nodup)
    {stop : Stop} {first second : Stretch} (isFirst : first ∈ stretches)
    (isSecond : second ∈ stretches) (inFirst : stop ∈ first.stops)
    (inSecond : stop ∈ second.stops) : first = second := by
  rw [divided.whole] at nodup
  have apart := (List.nodup_flatMap.mp nodup.of_append_left).2
  have symmetric : Std.Symm (Function.onFun List.Disjoint Stretch.stops) :=
    ⟨fun _ _ disjoint => List.disjoint_symm disjoint⟩
  by_contra differ
  exact apart.forall isFirst isSecond differ inFirst inSecond

/-- The ends of the stretches are among the stops, in order. -/
theorem map_last_sublist (divided : DividedInto source stops stretches left) :
    (stretches.map Stretch.last).Sublist stops := by
  have ends : ∀ list : List Stretch,
      (list.map Stretch.last).Sublist (list.flatMap Stretch.stops) := by
    intro list
    induction list with
    | nil => exact List.Sublist.slnil
    | cons stretch rest ih =>
      rw [List.map_cons, List.flatMap_cons, ← List.singleton_append]
      exact (List.sublist_append_right _ _).append ih
  rw [divided.whole]
  exact (ends stretches).trans (List.sublist_append_left _ _)

/-- The stops of a stretch are among all stops. -/
theorem mem_of_mem_stops (divided : DividedInto source stops stretches left) {stretch : Stretch}
    (listed : stretch ∈ stretches) {stop : Stop} (isStop : stop ∈ stretch.stops) :
    stop ∈ stops := by
  rw [divided.whole]
  exact List.mem_append_left _ (List.mem_flatMap.mpr ⟨stretch, listed, isStop⟩)

/-- Among stops that are all different an annotation is before the next declaration only. -/
theorem attachedOnce (divided : DividedInto source stops stretches left) (nodup : stops.Nodup) :
    AttachedOnce source stops stretches where
  atMost stop first isFirst second isSecond inFirst inSecond :=
    divided.eq_of_mem_stops nodup isFirst isSecond (List.mem_append_left _ inFirst)
      (List.mem_append_left _ inSecond)
  atLeast earlier stop later split annotates followed := by
    refine divided.mem_before split ?_ followed
    cases reads : stop.declaration? source with
    | none => rfl
    | some written =>
      rw [Stop.annotation?_of_declares source reads] at annotates
      cases annotates

/-- What divides the walk below a node has the annotations beside it and its members from its
body. -/
theorem answeredBelow {node : Node}
    (divided : DividedInto source (walk node.children) stretches left) {stretch : Stretch}
    (listed : stretch ∈ stretches) : stretch.AnsweredBelow source node := by
  have reached : ∀ stop ∈ stretch.stops, stop.ReachedFrom node.children := by
    intro stop isStop
    exact (mem_walk_iff node.children stop).mp (divided.mem_of_mem_stops listed isStop)
  obtain ⟨own, inner⟩ := Declaration.annotations_members_of_ofNode? (divided.ends stretch listed)
  refine ⟨?_, ?_, ?_, ?_⟩
  · exact (reached stretch.last (List.mem_append_right _ List.mem_cons_self)).leads
  · intro stop isStop outer passed within leads
    have entered := (reached stop isStop).entered outer passed within leads
    simp only [isEntered, KotlinLint.isStop, Bool.and_eq_true, Bool.not_eq_true',
      Bool.or_eq_false_iff, List.contains_eq_mem, decide_eq_false_iff_not] at entered
    exact ⟨entered.2, entered.1.1.1⟩
  · rw [Stretch.output, Declaration.annotations_prependAnnotations, own,
      Declaration.annotationsOf_eq]
  · rw [Stretch.output, Declaration.members_prependAnnotations, inner]

end DividedInto

/-- The declarations that a search below a node answers divide its walk into stretches: in the
order of the walk there is one for each stop that declares something, with the annotations of its
stretch and then its own. So an annotation is attached to the next declaration only, and a search
in a body keeps to itself. -/
theorem Declaration.ofNodes_eq_outputs (source : Source) (node : Node) :
    ∃ stretches left, DividedInto source (walk node.children) stretches left ∧
      Declaration.ofNodes source node.children = stretches.map (Stretch.output source) ∧
      (stretches.map (·.last.path)).Pairwise Path.Before ∧
      (∀ stop ∈ walk node.children,
        (stop.declaration? source).isSome ↔ Declaration.Declares stop.node) ∧
      (∀ stretch ∈ stretches, stretch.AnsweredBelow source node) ∧
      AttachedOnce source (walk node.children) stretches := by
  obtain ⟨stretches, left, divided, attached⟩ :=
    exists_dividedInto source [] (walk node.children) (List.forall_mem_nil _)
  rw [List.nil_append] at divided
  have nodup : (walk node.children).Nodup := (walk_nodup node.children).of_map _
  have ordered := (walk_pairwise node.children).sublist (divided.map_last_sublist.map Stop.path)
  rw [List.map_map] at ordered
  refine ⟨stretches, left, divided, ?_, ordered, ?_, ?_, divided.attachedOnce nodup⟩
  · rw [Declaration.ofNodes, Declaration.items_eq]
    exact attached
  · intro stop _
    exact Declaration.isSome_ofNode?_iff source stop.node
  · intro stretch listed
    exact divided.answeredBelow listed

end KotlinLint
