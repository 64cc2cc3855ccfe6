import KotlinLint.Proofs.Declaration.Annotations
import KotlinLint.Proofs.Declaration.Kinds
import KotlinLint.Proofs.Path

/-!
# Walks in search of declarations

A search for declarations walks through nodes from left to right. It stops at the nodes that
declare something and at annotations without looking below them, goes on below the other named
nodes that are not closed, and passes over the rest (`walk`). Its stops are the places that can be
reached in this way (`mem_walk_iff`), each once and in the order of places, and what the search
meets is what is read at the stops (`Declaration.items_eq`).
-/

namespace KotlinLint

/-- A node at which a walk stops, with the path that leads to it. -/
structure Stop where
  path : List Nat
  node : Node

namespace Stop

/-- The place of a stop below the first of some nodes. -/
def below (stop : Stop) : Stop := { stop with path := 0 :: stop.path }

/-- The place of a stop after the first of some nodes. -/
def shift (stop : Stop) : Stop := { stop with path := Path.shift stop.path }

/-- The annotation that is read at a stop. -/
def annotation? (source : Source) (stop : Stop) : Option (Placed AnnotationEntry) :=
  if stop.node.kind = "annotation" then stop.node.writtenAnnotation? source else none

/-- The declaration that is read at a stop. -/
def declaration? (source : Source) (stop : Stop) : Option Declaration :=
  Declaration.ofNode? source stop.node

/-- What is read at a stop. -/
def item? (source : Source) (stop : Stop) : Option Declaration.Item :=
  ((stop.annotation? source).map .annotationEntry).or
    ((stop.declaration? source).map .declaration)

end Stop

/-- Whether a walk stops at a node. -/
def isStop (label : Label) : Bool :=
  Declaration.nodeKinds.contains label.kind || label.kind = "annotation"

/-- The kinds below which there are no members, besides those of expressions and literals. -/
def memberlessKinds : List String :=
  ["package_header", "import", "import_header", "import_list", "annotated_lambda", "block",
    "function_body", "value_arguments", "modifiers", "line_comment", "block_comment"]

/-- Whether there are no members below nodes of a kind. -/
def isMemberless (kind : String) : Bool :=
  "_expression".toList.isSuffixOf kind.toList || "_literal".toList.isSuffixOf kind.toList ||
    memberlessKinds.contains kind

/-- Whether a walk goes on below a node. -/
def isEntered (label : Label) : Bool :=
  !isStop label && label.named && !isMemberless label.kind

/-- The stops of a walk through some nodes. -/
def walk : List Node → List Stop
  | [] => []
  | ⟨label, children⟩ :: rest =>
    (if isStop label then [⟨[0], ⟨label, children⟩⟩]
      else if isEntered label then (walk children).map Stop.below
      else []) ++ (walk rest).map Stop.shift

/-- A walk stops at the first node, below it or after it. -/
theorem mem_walk_cons_iff {node : Node} {rest : List Node} {stop : Stop} :
    stop ∈ walk (node :: rest) ↔
      (isStop node.label = true ∧ stop = ⟨[0], node⟩) ∨
        (isEntered node.label = true ∧ ∃ inner ∈ walk node.children, stop = inner.below) ∨
        ∃ later ∈ walk rest, stop = later.shift := by
  obtain ⟨label, children⟩ := node
  rw [walk, List.mem_append, List.mem_map, ← or_assoc]
  refine or_congr ?_ (by simp only [eq_comm])
  by_cases stops : isStop label = true
  · simp [stops, isEntered]
  · by_cases enters : isEntered label = true
    · simp [stops, enters, eq_comm]
    · simp [stops, enters]

/-- Whether a walk through some nodes comes to a stop: no node on the way to it is passed over or
stopped at. -/
structure Stop.ReachedFrom (nodes : List Node) (stop : Stop) : Prop where
  /-- The path leads to the node. -/
  leads : Path.follow? Node.children nodes stop.path = some stop.node
  /-- The walk stops at the node. -/
  stops : isStop stop.node.label = true
  /-- The walk goes on below every node on the way. -/
  entered : ∀ outer passed, Path.Inside stop.path outer →
    Path.follow? Node.children nodes outer = some passed → isEntered passed.label = true

namespace Stop.ReachedFrom

variable {node : Node} {rest : List Node} {stop : Stop}

/-- A stop that is reached is somewhere. -/
theorem path_ne_nil {nodes : List Node} (reached : stop.ReachedFrom nodes) : stop.path ≠ [] := by
  intro start
  have leads := reached.leads
  rw [start] at leads
  cases leads

/-- The first node is reached when the walk stops there. -/
theorem first (stops : isStop node.label = true) :
    (⟨[0], node⟩ : Stop).ReachedFrom (node :: rest) := by
  refine ⟨rfl, stops, ?_⟩
  intro outer passed within leads
  match outer with
  | [] => cases leads
  | position :: path => exact absurd (Path.inside_cons_iff.mp within).2 (Path.not_nil_inside path)

/-- What is reached from the children of a node is reached through the node. -/
theorem below (enters : isEntered node.label = true) (reached : stop.ReachedFrom node.children) :
    stop.below.ReachedFrom (node :: rest) := by
  obtain ⟨path, reachedNode⟩ := stop
  have started := reached.path_ne_nil
  match path with
  | [] => exact absurd rfl started
  | position :: path =>
    refine ⟨reached.leads, reached.stops, ?_⟩
    intro outer passed within leads
    match outer with
    | [] => cases leads
    | first :: [] =>
      obtain ⟨rfl, _⟩ := Path.inside_cons_iff.mp within
      cases leads
      exact enters
    | first :: next :: path =>
      obtain ⟨rfl, deeper⟩ := Path.inside_cons_iff.mp within
      exact reached.entered _ passed deeper leads

/-- What is reached without the first node is reached past it. -/
theorem shift (reached : stop.ReachedFrom rest) : stop.shift.ReachedFrom (node :: rest) := by
  obtain ⟨path, reachedNode⟩ := stop
  have started := reached.path_ne_nil
  match path with
  | [] => exact absurd rfl started
  | position :: path =>
    refine ⟨reached.leads, reached.stops, ?_⟩
    intro outer passed within leads
    match outer with
    | [] => cases leads
    | first :: outer =>
      obtain ⟨rfl, deeper⟩ := Path.inside_cons_iff.mp within
      exact reached.entered (position :: outer) passed
        (Path.inside_cons_iff.mpr ⟨rfl, deeper⟩) leads

/-- What is reached is the first node, or is reached from its children or without it. -/
theorem first_or_below_or_shift (reached : stop.ReachedFrom (node :: rest)) :
    (isStop node.label = true ∧ stop = ⟨[0], node⟩) ∨
      (isEntered node.label = true ∧
        ∃ inner : Stop, inner.ReachedFrom node.children ∧ stop = inner.below) ∨
      ∃ later : Stop, later.ReachedFrom rest ∧ stop = later.shift := by
  obtain ⟨path, reachedNode⟩ := stop
  have leads := reached.leads
  match path with
  | [] => cases leads
  | [0] =>
    cases leads
    exact .inl ⟨reached.stops, rfl⟩
  | 0 :: position :: path =>
    have around : Path.Inside (0 :: position :: path) [0] :=
      Path.cons_inside_cons_iff.mpr (Path.inside_nil_iff.mpr (List.cons_ne_nil _ _))
    refine .inr (.inl ⟨reached.entered [0] node around rfl, ⟨position :: path, reachedNode⟩,
      ⟨leads, reached.stops, ?_⟩, rfl⟩)
    intro outer passed within leadsOn
    match outer with
    | [] => cases leadsOn
    | next :: outer =>
      exact reached.entered (0 :: next :: outer) passed
        (Path.cons_inside_cons_iff.mpr within) leadsOn
  | (position + 1) :: path =>
    refine .inr (.inr ⟨⟨position :: path, reachedNode⟩, ⟨leads, reached.stops, ?_⟩, rfl⟩)
    intro outer passed within leadsOn
    match outer with
    | [] => cases leadsOn
    | next :: outer =>
      obtain ⟨rfl, deeper⟩ := Path.inside_cons_iff.mp within
      exact reached.entered ((next + 1) :: outer) passed
        (Path.inside_cons_iff.mpr ⟨rfl, deeper⟩) leadsOn

end Stop.ReachedFrom

/-- The stops of a walk are those that it can reach. -/
theorem mem_walk_iff : ∀ (nodes : List Node) (stop : Stop),
    stop ∈ walk nodes ↔ stop.ReachedFrom nodes
  | [], stop => by
    rw [walk]
    refine iff_of_false List.not_mem_nil fun reached => ?_
    have leads := reached.leads
    match found : stop.path with
    | [] => exact reached.path_ne_nil found
    | position :: path =>
      rw [found] at leads
      cases leads
  | ⟨label, children⟩ :: rest, stop => by
    rw [mem_walk_cons_iff]
    simp only [mem_walk_iff children, mem_walk_iff rest]
    constructor
    · intro met
      rcases met with ⟨stops, rfl⟩ | ⟨enters, inner, reached, rfl⟩ | ⟨later, reached, rfl⟩
      · exact .first stops
      · exact .below enters reached
      · exact .shift reached
    · intro reached
      exact reached.first_or_below_or_shift

/-- The stops of a walk follow the order of places. -/
theorem walk_pairwise : ∀ nodes : List Node, ((walk nodes).map Stop.path).Pairwise Path.Before
  | [] => by
    rw [walk]
    exact List.Pairwise.nil
  | ⟨label, children⟩ :: rest => by
    have inside : (((walk children).map Stop.below).map Stop.path).Pairwise Path.Before := by
      have inner := (walk_pairwise children).map (0 :: ·) fun _ _ before => before.cons 0
      rwa [List.map_map] at inner ⊢
    have later : (((walk rest).map Stop.shift).map Stop.path).Pairwise Path.Before := by
      have others := (walk_pairwise rest).map Path.shift fun _ _ before => before.shift
      rwa [List.map_map] at others ⊢
    rw [walk, List.map_append, List.pairwise_append]
    refine ⟨?_, later, ?_⟩
    · split
      · exact List.pairwise_singleton _ _
      · split
        · exact inside
        · exact List.Pairwise.nil
    · intro first isFirst second isSecond
      have through : ∃ inner, first = 0 :: inner := by
        obtain ⟨stop, met, rfl⟩ := List.mem_map.mp isFirst
        split at met
        · rw [List.mem_singleton.mp met]
          exact ⟨[], rfl⟩
        · split at met
          · obtain ⟨inner, _, rfl⟩ := List.mem_map.mp met
            exact ⟨inner.path, rfl⟩
          · cases met
      obtain ⟨inner, rfl⟩ := through
      rw [List.map_map] at isSecond
      obtain ⟨stop, met, rfl⟩ := List.mem_map.mp isSecond
      exact Path.before_shift inner ((mem_walk_iff rest stop).mp met).path_ne_nil

/-- No place is a stop twice. -/
theorem walk_nodup (nodes : List Node) : ((walk nodes).map Stop.path).Nodup :=
  (walk_pairwise nodes).imp fun before => before.ne

namespace Declaration

/-- What a search meets at a node that declares something is what the node declares. -/
theorem items_cons_of_declares {source : Source} {label : Label} {children rest : List Node}
    (declares : label.kind ∈ nodeKinds) :
    items source (⟨label, children⟩ :: rest) =
      (ofNode? source ⟨label, children⟩).toList.map .declaration ++ items source rest := by
  simp only [nodeKinds, List.mem_cons, List.not_mem_nil, or_false] at declares
  rw [items]
  rcases declares with kind | kind | kind | kind | kind <;> simp [roleOf, kind]

/-- What a search meets among some nodes is what is read at the first when the walk stops there,
what it meets below the first when the walk goes on there, and what it meets among the others. -/
theorem items_cons (source : Source) (label : Label) (children rest : List Node)
    (path : List Nat) :
    items source (⟨label, children⟩ :: rest) =
      (if isStop label then ((⟨path, ⟨label, children⟩⟩ : Stop).item? source).toList
        else if isEntered label then items source children
        else []) ++ items source rest := by
  by_cases declares : label.kind ∈ nodeKinds
  · have stops : isStop label = true := by simp [isStop, declares]
    have noMark : label.kind ≠ "annotation" := by
      intro kind
      rw [kind] at declares
      exact absurd declares (by decide)
    rw [items_cons_of_declares declares, if_pos stops]
    simp only [Stop.item?, Stop.annotation?, Stop.declaration?, Node.kind, noMark]
    cases ofNode? source ⟨label, children⟩ <;> rfl
  · by_cases annotates : label.kind = "annotation"
    · have stops : isStop label = true := by simp [isStop, annotates]
      rw [items, roleOf_of_not_declares declares, if_pos annotates, if_pos stops]
      simp only [Stop.item?, Stop.annotation?, Stop.declaration?, Node.kind, annotates,
        ofNode?_eq_none declares]
      have entry : Node.writtenAnnotation? source ⟨label, children⟩ =
          AnnotationEntry.ofLabel? source label := rfl
      rw [entry]
      cases AnnotationEntry.ofLabel? source label <;> rfl
    · have passes : ¬ isStop label = true := by simp [isStop, declares, annotates]
      have sameKinds : isMemberless label.kind = isClosed label.kind := rfl
      have goesOn : isEntered label = (label.named && !isClosed label.kind) := by
        simp [isEntered, passes, sameKinds]
      rw [items, roleOf_of_not_declares declares, if_neg annotates, if_neg passes, goesOn]
      cases label.named && !isClosed label.kind <;> rfl

end Declaration

/-- What a search meets is what is read at the stops of the walk. -/
theorem Declaration.items_eq (source : Source) : ∀ nodes : List Node,
    Declaration.items source nodes = (walk nodes).filterMap (Stop.item? source)
  | [] => by
    rw [Declaration.items, walk]
    rfl
  | ⟨label, children⟩ :: rest => by
    have inside : ((walk children).map Stop.below).filterMap (Stop.item? source) =
        Declaration.items source children := by
      rw [List.filterMap_map, Declaration.items_eq source children]
      rfl
    have later : ((walk rest).map Stop.shift).filterMap (Stop.item? source) =
        Declaration.items source rest := by
      rw [List.filterMap_map, Declaration.items_eq source rest]
      rfl
    rw [Declaration.items_cons source label children rest [0], walk, List.filterMap_append, later]
    congr 1
    split
    · rw [List.filterMap_cons, List.filterMap_nil]
      cases Stop.item? source ⟨[0], ⟨label, children⟩⟩ <;> rfl
    · split
      · exact inside.symm
      · rfl

end KotlinLint
