import Mathlib.Data.List.Induction
import KotlinLint.Proofs.Call.Correspondence
import KotlinLint.Proofs.Call.Suffixes

/-!
# Chains of call expressions

A call expression that calls another one, which may call another one again, is a chain over what
the innermost one calls. The groups of suffixes of a chain are divided into runs: a group that gives
value arguments starts a run, and every other one joins the run before it. Each run is read as one
call, whose receiver is the call of the run before it (`Call.exists_runs_of_isChain`). So it makes
no difference whether the groups of a run are suffixes of one call expression or of several.
-/

namespace KotlinLint

namespace Node

/-- Whether a suffix of a call is a trailing lambda. -/
def isLambda (suffix : Node) : Bool :=
  suffix.kind = "annotated_lambda" || suffix.kind = "lambda_literal"

/-- The lambda that a suffix is or that it annotates, which is the first one among its children. -/
def lambda? (suffix : Node) : Option Node :=
  if suffix.kind = "annotated_lambda" then suffix.childOfKind? ["lambda_literal"]
  else if suffix.kind = "lambda_literal" then some suffix
  else none

/-- Suffixes in source order without bare tokens, with what each call suffix has in its place. -/
def unwrapSuffixes : List Node → List Node
  | [] => []
  | ⟨label, children⟩ :: rest =>
    (if label.named = false then []
      else if label.kind = "call_suffix" then unwrapSuffixes children
      else [⟨label, children⟩]) ++ unwrapSuffixes rest

end Node

namespace Call

open Node

/-- The calls in the suffixes that are no lambdas, in source order. -/
def argumentsOf (source : Source) (group : List Node) : List Call :=
  ((unwrapSuffixes group).filter (!·.isLambda)).flatMap (ofNode source)

/-- The lambdas among suffixes, in source order. -/
def lambdasOf (source : Source) (group : List Node) : List Block :=
  ((unwrapSuffixes group).filterMap lambda?).map (Block.ofNode source)

/-- The name of a call expression that is called itself, which is taken from its text. -/
def expressionName (source : Source) (label : Label) : String :=
  String.ofList (nameFromText (source.text label).toList)

end Call

/-- One call expression of a chain. -/
structure Link where
  /-- What the call expression says about itself. -/
  label : Label
  /-- The suffixes, which are the named children after what is called. -/
  group : List Node

/-- Whether a link gives value arguments, as a suffix or in a call suffix. -/
def Link.GivesArguments (link : Link) : Prop := ∃ suffix ∈ link.group, suffix.GivesArguments

/-- Whether a node is the outermost one of call expressions that each call the one before, the
first of which calls the base. -/
inductive Node.IsChain (base : Node) : List Link → Node → Prop where
  /-- A call expression that calls the base. -/
  | single {node : Node} {group : List Node} : node.IsCall → node.namedChildren = base :: group →
      IsChain base [⟨node.label, group⟩] node
  /-- A call expression that calls the outermost one of a chain. -/
  | more {links : List Link} {inner node : Node} {group : List Node} : IsChain base links inner →
      node.IsCall → node.namedChildren = inner :: group →
      IsChain base (links ++ [⟨node.label, group⟩]) node

/-- Links of a chain that follow each other, the innermost one first. -/
structure Run where
  first : Link
  /-- The links after the first one. -/
  joined : List Link

namespace Run

/-- The links of a run. -/
def links (run : Run) : List Link := run.first :: run.joined

/-- What the last call expression of a run says about itself. -/
def label (run : Run) : Label := (run.joined.getLast?.getD run.first).label

/-- The suffixes of all links of a run. -/
def group (run : Run) : List Node := run.links.flatMap Link.group

/-- The run as one link, with the suffixes of all its links. -/
def flat (run : Run) : Link := ⟨run.label, run.group⟩

/-- The run with one more link at its end. -/
def join (run : Run) (link : Link) : Run := ⟨run.first, run.joined ++ [link]⟩

end Run

/-- Whether links are divided into runs at those that give value arguments. -/
structure AreRuns (links : List Link) (runs : List Run) : Prop where
  /-- The runs follow each other and leave out no link. -/
  whole : runs.flatMap Run.links = links
  /-- A link that is not the first one of its run gives no value arguments. -/
  joined : ∀ run ∈ runs, ∀ link ∈ run.joined, ¬ link.GivesArguments
  /-- The first link of every run but the first gives value arguments. -/
  starts : ∀ run ∈ runs.tail, run.first.GivesArguments

/-- What some runs and a last one over a base are read as. -/
inductive Call.ReadsRuns (source : Source) (base : Node) : List Run → Run → Call → Prop where
  /-- The call of the first run has the name of the base, and holds the calls in the base before
  those in its own suffixes. -/
  | first (run : Run) : ReadsRuns source base [] run
      ⟨calleeName source base, run.label.span,
        ofNode source base ++ argumentsOf source run.group, lambdasOf source run.group⟩
  /-- The call of a later run holds the call of the run before it, and then those in its own
  suffixes. -/
  | later {earlier : List Run} {previous : Run} {inner : Call} (run : Run) :
      ReadsRuns source base earlier previous inner →
      ReadsRuns source base (earlier ++ [previous]) run
        ⟨expressionName source previous.label, run.label.span,
          inner :: argumentsOf source run.group, lambdasOf source run.group⟩

namespace Run

/-- A run of one link has its suffixes. -/
theorem group_of_single (link : Link) : Run.group ⟨link, []⟩ = link.group := by
  simp [group, links]

/-- A link that joins a run adds its suffixes. -/
theorem group_join (run : Run) (link : Link) : (run.join link).group = run.group ++ link.group := by
  simp [join, group, links]

/-- A link that joins a run is its last one. -/
theorem label_join (run : Run) (link : Link) : (run.join link).label = link.label := by
  simp [join, label]

end Run

namespace AreRuns

variable {links : List Link} {link : Link} {earlier : List Run} {last : Run}

/-- One link is one run. -/
theorem single (link : Link) : AreRuns [link] [⟨link, []⟩] := by
  refine ⟨rfl, ?_, nofun⟩
  intro run listed
  rw [List.mem_singleton.mp listed]
  exact List.forall_mem_nil _

/-- A link that gives value arguments starts a run. -/
theorem start (runs : AreRuns links (earlier ++ [last])) (gives : link.GivesArguments) :
    AreRuns (links ++ [link]) (earlier ++ [last] ++ [⟨link, []⟩]) := by
  constructor
  · rw [List.flatMap_append, runs.whole]
    rfl
  · intro run listed
    rcases List.mem_append.mp listed with before | here
    · exact runs.joined run before
    · rw [List.mem_singleton.mp here]
      exact List.forall_mem_nil _
  · intro run listed
    rw [List.tail_append_of_ne_nil (by simp)] at listed
    rcases List.mem_append.mp listed with before | here
    · exact runs.starts run before
    · rw [List.mem_singleton.mp here]
      exact gives

/-- A link that gives no value arguments joins the last run. -/
theorem join (runs : AreRuns links (earlier ++ [last])) (plain : ¬ link.GivesArguments) :
    AreRuns (links ++ [link]) (earlier ++ [last.join link]) := by
  have isLast : last ∈ earlier ++ [last] := List.mem_append_right _ List.mem_cons_self
  constructor
  · have divided := runs.whole
    rw [List.flatMap_append, List.flatMap_singleton] at divided ⊢
    rw [← divided, List.append_assoc]
    rfl
  · intro run listed
    rcases List.mem_append.mp listed with before | here
    · exact runs.joined run (List.mem_append_left _ before)
    · rw [List.mem_singleton.mp here]
      intro other isJoined
      rcases List.mem_append.mp isJoined with before | added
      · exact runs.joined last isLast other before
      · rw [List.mem_singleton.mp added]
        exact plain
  · have starts := runs.starts
    cases earlier with
    | nil => exact nofun
    | cons first between =>
      intro run listed
      rcases List.mem_append.mp listed with before | here
      · exact starts run (List.mem_append_left _ before)
      · rw [List.mem_singleton.mp here]
        exact starts last (List.mem_append_right _ List.mem_cons_self)

end AreRuns

namespace Node.IsChain

variable {base node : Node} {links : List Link} {link : Link}

/-- A chain has a link. -/
theorem ne_nil (chain : base.IsChain links node) : links ≠ [] := by
  cases chain with
  | single _ _ => simp
  | more _ _ _ => simp

/-- A chain of one link is a call expression that calls the base. -/
theorem of_single (chain : base.IsChain [link] node) :
    node.IsCall ∧ node.namedChildren = base :: link.group ∧ node.label = link.label := by
  generalize same : [link] = list at chain
  cases chain with
  | single isCall children =>
    rw [List.singleton_inj.mp same]
    exact ⟨isCall, children, rfl⟩
  | more inner _ _ =>
    have ends := List.append_inj' (show [] ++ [link] = _ from same) rfl
    exact absurd ends.1.symm inner.ne_nil

/-- A longer chain is a call expression that calls the outermost one of a chain. -/
theorem of_concat (chain : base.IsChain (links ++ [link]) node) (started : links ≠ []) :
    ∃ inner, base.IsChain links inner ∧ node.IsCall ∧ node.namedChildren = inner :: link.group ∧
      node.label = link.label := by
  generalize same : links ++ [link] = list at chain
  cases chain with
  | single _ _ =>
    have ends := List.append_inj' (show links ++ [link] = [] ++ [_] from same) rfl
    exact absurd ends.1 started
  | more inner isCall children =>
    obtain ⟨rfl, last⟩ := List.append_inj' same rfl
    rw [List.singleton_inj.mp last]
    exact ⟨_, inner, isCall, children, rfl⟩

/-- The outermost node of a chain has the label of the last link. -/
theorem label_of_concat (chain : base.IsChain (links ++ [link]) node) :
    node.label = link.label := by
  cases links with
  | nil => exact chain.of_single.2.2
  | cons first rest =>
    obtain ⟨_, _, _, _, label⟩ := chain.of_concat (List.cons_ne_nil _ _)
    exact label

end Node.IsChain

/-- The outermost call expression of a chain over a base that has the given links. -/
def Node.chain (base : Node) (links : List Link) : Node :=
  links.foldl (fun inner link => ⟨link.label, inner :: link.group⟩) base

/-- Whether a link is a named call expression with named suffixes. -/
structure Link.IsWellFormed (link : Link) : Prop where
  isCall : link.label.kind = "call_expression"
  named : link.label.named = true
  suffixes : ∀ suffix ∈ link.group, suffix.label.named = true

/-- Links over a named base make up a chain. -/
theorem Node.isChain_chain {base : Node} (named : base.label.named = true) {links : List Link}
    (started : links ≠ []) (wellFormed : ∀ link ∈ links, link.IsWellFormed) :
    base.IsChain links (base.chain links) := by
  induction links using List.reverseRecOn with
  | nil => exact absurd rfl started
  | append_singleton earlier link ih =>
    have last := wellFormed link (List.mem_append_right _ List.mem_cons_self)
    have built : base.chain (earlier ++ [link]) =
        ⟨link.label, base.chain earlier :: link.group⟩ := List.foldl_concat ..
    have isCall : Node.IsCall ⟨link.label, base.chain earlier :: link.group⟩ := last.isCall
    have children : (base.chain earlier).label.named = true →
        Node.namedChildren ⟨link.label, base.chain earlier :: link.group⟩ =
          base.chain earlier :: link.group := by
      intro innerNamed
      change List.filter _ (base.chain earlier :: link.group) = _
      rw [List.filter_cons, if_pos innerNamed, List.filter_eq_self.mpr last.suffixes]
    rw [built]
    by_cases alone : earlier = []
    · subst alone
      exact .single isCall (children named)
    · have before : ∀ other ∈ earlier, other.IsWellFormed :=
        fun other listed => wellFormed other (List.mem_append_left _ listed)
      have chain := ih alone before
      refine .more chain isCall (children ?_)
      obtain ⟨init, final, rfl⟩ := (List.eq_nil_or_concat' earlier).resolve_left alone
      rw [chain.label_of_concat]
      exact (before final (List.mem_append_right _ List.mem_cons_self)).named

namespace Node

/-- Suffixes one after the other are unwrapped one after the other. -/
theorem unwrapSuffixes_append (first second : List Node) :
    unwrapSuffixes (first ++ second) = unwrapSuffixes first ++ unwrapSuffixes second := by
  induction first with
  | nil => rw [unwrapSuffixes, List.nil_append, List.nil_append]
  | cons node rest ih =>
    obtain ⟨label, children⟩ := node
    rw [List.cons_append, unwrapSuffixes, unwrapSuffixes, ih, List.append_assoc]

/-- A named suffix that is no call suffix stays as it is. -/
theorem unwrapSuffixes_plain {suffix : Node} (named : suffix.label.named)
    (plain : suffix.kind ≠ "call_suffix") : unwrapSuffixes [suffix] = [suffix] := by
  obtain ⟨label, children⟩ := suffix
  have named : label.named = true := named
  have plain : label.kind ≠ "call_suffix" := plain
  rw [unwrapSuffixes, unwrapSuffixes, if_neg (by simp [named]), if_neg plain, List.append_nil]

/-- What an annotated lambda annotates is its first lambda. -/
theorem lambda?_annotated {suffix : Node} (annotated : suffix.kind = "annotated_lambda") :
    suffix.lambda? = suffix.childOfKind? ["lambda_literal"] := if_pos annotated

/-- A lambda annotates nothing but is a lambda itself. -/
theorem lambda?_lambda {suffix : Node} (lambda : suffix.kind = "lambda_literal") :
    suffix.lambda? = some suffix := by
  rw [Node.lambda?, if_neg (by simp [lambda]), if_pos lambda]

/-- A suffix that is no lambda has none. -/
theorem lambda?_plain {suffix : Node} (plain : suffix.isLambda = false) :
    suffix.lambda? = none := by
  simp only [isLambda, Bool.or_eq_false_iff, decide_eq_false_iff_not] at plain
  rw [Node.lambda?, if_neg plain.1, if_neg plain.2]

end Node

namespace Call

open Node

section Groups

variable (source : Source)

/-- The calls in the arguments of groups are those of each. -/
theorem argumentsOf_append (first second : List Node) :
    argumentsOf source (first ++ second) =
      argumentsOf source first ++ argumentsOf source second := by
  simp only [argumentsOf, unwrapSuffixes_append, List.filter_append, List.flatMap_append]

/-- The lambdas of groups are those of each. -/
theorem lambdasOf_append (first second : List Node) :
    lambdasOf source (first ++ second) = lambdasOf source first ++ lambdasOf source second := by
  simp only [lambdasOf, unwrapSuffixes_append, List.filterMap_append, List.map_append]

/-- An annotated lambda is read as the block of its lambda. -/
theorem annotatedLambda_eq (label : Label) (children : List Node) :
    annotatedLambda source children =
      ((childOfKind? ⟨label, children⟩ ["lambda_literal"]).map (Block.ofNode source)).toList := by
  induction children with
  | nil => rw [annotatedLambda]; rfl
  | cons child rest ih =>
    obtain ⟨childLabel, inner⟩ := child
    rw [annotatedLambda]
    by_cases lambda : childLabel.kind = "lambda_literal"
    · have found : childOfKind? ⟨label, ⟨childLabel, inner⟩ :: rest⟩ ["lambda_literal"] =
          some ⟨childLabel, inner⟩ := by
        simp [childOfKind?, kind, lambda]
      rw [if_pos lambda, found]
      rfl
    · have skipped : childOfKind? ⟨label, ⟨childLabel, inner⟩ :: rest⟩ ["lambda_literal"] =
          childOfKind? ⟨label, rest⟩ ["lambda_literal"] := by
        simp [childOfKind?, kind, lambda]
      rw [if_neg lambda, ih, skipped]

/-- A named suffix that is no call suffix adds a lambda or the calls in it. -/
theorem suffixes_plain (suffix : Node) (named : suffix.label.named)
    (plain : suffix.kind ≠ "call_suffix") : suffixes source [suffix] =
      ⟨if suffix.isLambda then [] else ofNode source suffix,
        (suffix.lambda?.map (Block.ofNode source)).toList⟩ := by
  obtain ⟨label, children⟩ := suffix
  have notBare : label.named ≠ false := by simpa using named
  have plain : label.kind ≠ "call_suffix" := plain
  rw [suffixes, suffixes, Parts.append_empty, if_neg notBare]
  by_cases annotated : label.kind = "annotated_lambda"
  · have isLambda : isLambda ⟨label, children⟩ = true := by
      simp [Node.isLambda, kind, annotated]
    have first : lambda? ⟨label, children⟩ = childOfKind? ⟨label, children⟩ ["lambda_literal"] :=
      lambda?_annotated annotated
    rw [if_pos annotated, if_pos isLambda, first, annotatedLambda_eq]
  by_cases lambda : label.kind = "lambda_literal"
  · have isLambda : isLambda ⟨label, children⟩ = true := by
      simp [Node.isLambda, kind, lambda]
    have own : lambda? ⟨label, children⟩ = some ⟨label, children⟩ := lambda?_lambda lambda
    rw [if_neg annotated, if_pos lambda, if_pos isLambda, own]
    rfl
  · have notLambda : isLambda ⟨label, children⟩ = false := by
      simp [Node.isLambda, kind, annotated, lambda]
    rw [if_neg annotated, if_neg lambda, if_neg plain, lambda?_plain notLambda, notLambda]
    rfl

/-- The calls in the arguments of one suffix are those in it when it is no lambda. -/
theorem argumentsOf_of_unwrapped {suffix : Node} (unwrapped : unwrapSuffixes [suffix] = [suffix]) :
    argumentsOf source [suffix] = if suffix.isLambda then [] else ofNode source suffix := by
  rw [argumentsOf, unwrapped, List.filter_cons, List.filter_nil]
  by_cases lambda : suffix.isLambda
  · simp [lambda]
  · simp [lambda]

/-- The lambdas of one suffix are the one that it has. -/
theorem lambdasOf_of_unwrapped {suffix : Node} (unwrapped : unwrapSuffixes [suffix] = [suffix]) :
    lambdasOf source [suffix] = (suffix.lambda?.map (Block.ofNode source)).toList := by
  rw [lambdasOf, unwrapped, List.filterMap_cons, List.filterMap_nil]
  cases suffix.lambda? with
  | none => rfl
  | some lambda => rfl

/-- What suffixes add are the calls of their arguments and their lambdas, at any depth of call
suffixes. -/
theorem suffixes_eq : ∀ nodes : List Node,
    suffixes source nodes = ⟨argumentsOf source nodes, lambdasOf source nodes⟩
  | [] => by
    rw [suffixes, argumentsOf, lambdasOf, unwrapSuffixes]
    rfl
  | ⟨label, children⟩ :: rest => by
    have inside := suffixes_eq children
    have later := suffixes_eq rest
    have arguments := argumentsOf_append source [⟨label, children⟩] rest
    have lambdas := lambdasOf_append source [⟨label, children⟩] rest
    rw [List.singleton_append] at arguments lambdas
    have first : suffixes source [⟨label, children⟩] =
        ⟨argumentsOf source [⟨label, children⟩], lambdasOf source [⟨label, children⟩]⟩ := by
      by_cases bare : label.named = false
      · rw [suffixes_token source bare, argumentsOf, lambdasOf, unwrapSuffixes, unwrapSuffixes,
          if_pos bare]
        rfl
      by_cases suffix : label.kind = "call_suffix"
      · have unwrapped : unwrapSuffixes [⟨label, children⟩] = unwrapSuffixes children := by
          rw [unwrapSuffixes, unwrapSuffixes, if_neg bare, if_pos suffix, List.append_nil]
        rw [argumentsOf, lambdasOf, unwrapped, suffixes, suffixes, Parts.append_empty,
          if_neg bare, if_neg (by simp [suffix]), if_neg (by simp [suffix]), if_pos suffix]
        exact inside
      · have named : label.named = true := by simpa using bare
        have unwrapped : unwrapSuffixes [⟨label, children⟩] = [⟨label, children⟩] :=
          unwrapSuffixes_plain named suffix
        rw [suffixes_plain source ⟨label, children⟩ named suffix,
          argumentsOf_of_unwrapped source unwrapped, lambdasOf_of_unwrapped source unwrapped]
    rw [suffixes_cons, first, later, arguments, lambdas]
    rfl

end Groups

section Reading

variable {source : Source}

/-- A call expression that is called has its name from its text. -/
theorem calleeName_of_isCall {node : Node} (isCall : node.IsCall) :
    calleeName source node = expressionName source node.label := by
  obtain ⟨label, children⟩ := node
  have kind : label.kind = expressionKind := isCall
  rw [calleeName]
  simp [kind, expressionKind, nameKinds, expressionName]

/-- Bare tokens give no value arguments. -/
theorem hasValueArguments_named (nodes : List Node) :
    hasValueArguments (nodes.filter (·.label.named)) = hasValueArguments nodes := by
  have same : ∀ node : Node, (node.label.named && (node.label.named &&
      (node.kind = "value_arguments" || node.kind = "call_suffix" &&
        node.children.any fun child => child.label.named && child.kind = "value_arguments"))) =
      (node.label.named && (node.kind = "value_arguments" || node.kind = "call_suffix" &&
        node.children.any fun child => child.label.named && child.kind = "value_arguments")) := by
    intro node
    rw [← Bool.and_assoc, Bool.and_self]
  rw [hasValueArguments, hasValueArguments, List.any_filter]
  simp only [same]

/-- The call of a call expression is made from the first named child and from the named ones after
it. -/
theorem ofChildren_of_named (label : Label) {children group : List Node} {callee : Node}
    (named : children.filter (·.label.named) = callee :: group) :
    ofChildren source label children =
      (if callee.IsCall ∧ hasValueArguments group = false then
        ofChildren source callee.label callee.children
      else ⟨calleeName source callee, label.span, ofNode source callee, []⟩).extend label.span
        (suffixes source group) := by
  induction children with
  | nil => cases named
  | cons first rest ih =>
    obtain ⟨firstLabel, inner⟩ := first
    rw [List.filter_cons] at named
    rw [ofChildren]
    by_cases isNamed : firstLabel.named
    · rw [if_pos isNamed] at named
      obtain ⟨rfl, rfl⟩ := List.cons.inj named
      rw [if_pos isNamed, suffixes_named, hasValueArguments_named]
      rfl
    · rw [if_neg isNamed] at named
      rw [if_neg isNamed]
      exact ih named

variable {node callee : Node} {group : List Node}

/-- A call expression that calls another one without giving it value arguments adds to its call. -/
theorem ofNode_of_joined (isCall : node.IsCall) (children : node.namedChildren = callee :: group)
    (calls : callee.IsCall) (plain : ∀ suffix ∈ group, ¬ suffix.GivesArguments) {call : Call}
    (reads : ofNode source callee = [call]) :
    ofNode source node = [call.extend node.span (suffixes source group)] := by
  obtain ⟨label, nodes⟩ := node
  obtain ⟨calleeLabel, calleeNodes⟩ := callee
  have kind : label.kind = expressionKind := isCall
  have calleeKind : calleeLabel.kind = expressionKind := calls
  have absent := hasValueArguments_eq_false_iff.mpr plain
  rw [ofNode, if_pos calleeKind] at reads
  rw [ofNode, if_pos kind, ofChildren_of_named label children, if_pos ⟨calls, absent⟩,
    List.singleton_inj.mp reads]
  rfl

/-- Any other call expression is a call of its own, which holds the calls of what it calls. -/
theorem ofNode_of_own (source : Source) (isCall : node.IsCall)
    (children : node.namedChildren = callee :: group)
    (own : callee.IsCall → ∃ suffix ∈ group, suffix.GivesArguments) :
    ofNode source node = [⟨calleeName source callee, node.span,
      ofNode source callee ++ argumentsOf source group, lambdasOf source group⟩] := by
  obtain ⟨label, nodes⟩ := node
  have kind : label.kind = expressionKind := isCall
  have notJoined : ¬ (callee.IsCall ∧ hasValueArguments group = false) := by
    intro ⟨calls, absent⟩
    obtain ⟨suffix, listed, gives⟩ := own calls
    exact hasValueArguments_eq_false_iff.mp absent suffix listed gives
  rw [ofNode, if_pos kind, ofChildren_of_named label children, if_neg notJoined, suffixes_eq]
  rfl

variable {base : Node} {earlier : List Run} {last : Run} {call : Call}

/-- A run with one more link at its end is read as its call with more parts. -/
theorem ReadsRuns.join (reads : ReadsRuns source base earlier last call) (link : Link) :
    ReadsRuns source base earlier (last.join link)
      (call.extend link.label.span (suffixes source link.group)) := by
  rw [suffixes_eq]
  cases reads with
  | first run =>
    have joined : ReadsRuns source base [] (last.join link) _ := .first (last.join link)
    rw [Run.group_join, Run.label_join, argumentsOf_append, lambdasOf_append, ← List.append_assoc]
      at joined
    exact joined
  | later run inner =>
    have joined := ReadsRuns.later (last.join link) inner
    rw [Run.group_join, Run.label_join, argumentsOf_append, lambdasOf_append] at joined
    exact joined

/-- The outermost node of a chain is a call expression. -/
theorem isCall_of_isChain {links : List Link} {node : Node} (chain : base.IsChain links node) :
    node.IsCall := by
  cases chain with
  | single isCall _ => exact isCall
  | more _ isCall _ => exact isCall

/-- A chain is divided into runs, and its outermost node is read as the call of the last run. -/
theorem exists_runs_of_isChain (source : Source) {links : List Link} {node : Node}
    (plain : ¬ base.IsCall) (chain : base.IsChain links node) :
    ∃ earlier last call, AreRuns links (earlier ++ [last]) ∧ last.label = node.label ∧
      ofNode source node = [call] ∧ ReadsRuns source base earlier last call := by
  induction chain with
  | @single node group isCall children =>
    have reads := ofNode_of_own source isCall children fun calls => absurd calls plain
    have first : ReadsRuns source base [] ⟨⟨node.label, group⟩, []⟩ _ := .first _
    rw [Run.group_of_single] at first
    exact ⟨[], ⟨⟨node.label, group⟩, []⟩, _, .single _, rfl, reads, first⟩
  | @more links inner node group chain isCall children ih =>
    obtain ⟨earlier, last, call, runs, label, reads, ofRuns⟩ := ih
    have calls := isCall_of_isChain chain
    by_cases gives : ∃ suffix ∈ group, suffix.GivesArguments
    · -- The link starts a run, whose call holds the call that was read so far.
      have own := ofNode_of_own source isCall children fun _ => gives
      have later := ReadsRuns.later ⟨⟨node.label, group⟩, []⟩ ofRuns
      rw [reads, calleeName_of_isCall calls, ← label] at own
      rw [Run.group_of_single] at later
      exact ⟨earlier ++ [last], ⟨⟨node.label, group⟩, []⟩, _, runs.start gives, rfl, own, later⟩
    · -- The link joins the last run and adds to its call.
      have joins : ∀ suffix ∈ group, ¬ suffix.GivesArguments :=
        fun suffix listed given => gives ⟨suffix, listed, given⟩
      have read := ofNode_of_joined isCall children calls joins reads
      exact ⟨earlier, last.join ⟨node.label, group⟩, _, runs.join gives, Run.label_join .., read,
        ofRuns.join ⟨node.label, group⟩⟩

/-- A chain with one link for each run is read as the runs are. -/
theorem ofNode_of_flat (reads : ReadsRuns source base earlier last call) (plain : ¬ base.IsCall)
    (starts : ∀ run ∈ (earlier ++ [last]).tail, run.first.GivesArguments) {node : Node}
    (chain : base.IsChain ((earlier ++ [last]).map Run.flat) node) :
    ofNode source node = [call] := by
  induction reads generalizing node with
  | first run =>
    obtain ⟨isCall, children, label⟩ := chain.of_single
    have own := ofNode_of_own source isCall children fun calls => absurd calls plain
    rw [Node.span, label] at own
    exact own
  | @later earlier previous inner run ofRuns ih =>
    rw [List.map_append, List.map_singleton] at chain
    obtain ⟨callee, calls, isCall, children, label⟩ := chain.of_concat (by simp)
    have before : ∀ run ∈ (earlier ++ [previous]).tail, run.first.GivesArguments := by
      intro other listed
      apply starts
      rw [List.tail_append_of_ne_nil (by simp)]
      exact List.mem_append_left _ listed
    have gives : ∃ suffix ∈ run.flat.group, suffix.GivesArguments := by
      have isLater : run ∈ (earlier ++ [previous] ++ [run]).tail := by
        rw [List.tail_append_of_ne_nil (by simp)]
        exact List.mem_append_right _ List.mem_cons_self
      obtain ⟨suffix, listed, given⟩ := starts run isLater
      exact ⟨suffix, List.mem_append_left _ listed, given⟩
    have calleeLabel : callee.label = previous.label := by
      rw [List.map_append, List.map_singleton] at calls
      exact calls.label_of_concat
    have own := ofNode_of_own source isCall children fun _ => gives
    rw [ih before calls, calleeName_of_isCall (isCall_of_isChain calls), calleeLabel, Node.span,
      label] at own
    exact own

/-- A chain of call expressions is read by its runs: a group of suffixes starts a call of its own
when it gives value arguments, and joins the call of the group before it otherwise. Any other chain
over the same base that has one call expression for each run is read in the same way. -/
theorem ofNode_of_isChain (source : Source) {links : List Link} {node : Node}
    (plain : ¬ base.IsCall) (chain : base.IsChain links node) :
    ∃ earlier last call, AreRuns links (earlier ++ [last]) ∧ ofNode source node = [call] ∧
      ReadsRuns source base earlier last call ∧
      ∀ flat, base.IsChain ((earlier ++ [last]).map Run.flat) flat →
        ofNode source flat = ofNode source node := by
  obtain ⟨earlier, last, call, runs, _, reads, ofRuns⟩ :=
    exists_runs_of_isChain source plain chain
  refine ⟨earlier, last, call, runs, reads, ofRuns, ?_⟩
  intro flat flatChain
  rw [reads]
  exact ofNode_of_flat ofRuns plain runs.starts flatChain

/-- The text of a chain of four call expressions over `b.f`. -/
def memberSource : Source := .ofString "b.f(x()) \x7b y() \x7d(z()) \x7b w() \x7d"

/-- What the chain is over. -/
def memberBase : Node :=
  Block.nodeOf "navigation_expression" true 0 3
    [Block.nodeOf "identifier" true 0 1 [], Block.nodeOf "." false 1 2 [],
      Block.nodeOf "identifier" true 2 3 []]

/-- A call without arguments at a place of the text, by a name of one letter. -/
def shortCall (start : Nat) : Node :=
  Block.nodeOf "call_expression" true start (start + 3)
    [Block.nodeOf "identifier" true start (start + 1) [],
      Block.nodeOf "value_arguments" true (start + 1) (start + 3) []]

/-- The links of the chain, of which the third one gives its arguments in a call suffix. -/
def memberLinks : List Link :=
  [⟨(Block.nodeOf "call_expression" true 0 8 []).label,
      [Block.nodeOf "value_arguments" true 3 8 [shortCall 4]]⟩,
    ⟨(Block.nodeOf "call_expression" true 0 16 []).label,
      [Block.nodeOf "lambda_literal" true 9 16 [shortCall 11]]⟩,
    ⟨(Block.nodeOf "call_expression" true 0 21 []).label,
      [Block.nodeOf "call_suffix" true 16 21
        [Block.nodeOf "value_arguments" true 16 21 [shortCall 17]]]⟩,
    ⟨(Block.nodeOf "call_expression" true 0 29 []).label,
      [Block.nodeOf "annotated_lambda" true 22 29
        [Block.nodeOf "lambda_literal" true 22 29 [shortCall 24]]]⟩]

/-- The four call expressions of the chain are two runs of two, and so one call in another one of
the same name, which have one of the two lambdas each. -/
theorem memberLinks_runs : ¬ memberBase.IsCall ∧
    memberBase.IsChain memberLinks (memberBase.chain memberLinks) ∧
    ∃ earlier last call, AreRuns memberLinks (earlier ++ [last]) ∧
      ofNode memberSource (memberBase.chain memberLinks) = [call] ∧
      ReadsRuns memberSource memberBase earlier last call ∧
      call.callee = "f" ∧ call.nested.map Call.callee = ["f", "z"] ∧ call.lambdas.length = 1 := by
  have wellFormed : ∀ link ∈ memberLinks, link.IsWellFormed := by
    intro link listed
    simp only [memberLinks, List.mem_cons, List.not_mem_nil, or_false] at listed
    rcases listed with rfl | rfl | rfl | rfl <;> exact ⟨rfl, rfl, by simp [Block.nodeOf]⟩
  have plain : ¬ memberBase.IsCall := by decide
  have chain : memberBase.IsChain memberLinks (memberBase.chain memberLinks) :=
    isChain_chain rfl (List.cons_ne_nil _ _) wellFormed
  have summary : (ofNode memberSource (memberBase.chain memberLinks)).map
      (fun call => (call.callee, call.nested.map Call.callee, call.lambdas.length)) =
        [("f", ["f", "z"], 1)] := by
    decide +kernel
  obtain ⟨earlier, last, call, runs, reads, ofRuns, _⟩ := ofNode_of_isChain memberSource plain chain
  rw [reads] at summary
  obtain ⟨callee, parts⟩ := Prod.mk.inj (List.singleton_inj.mp summary)
  obtain ⟨nested, lambdas⟩ := Prod.mk.inj parts
  exact ⟨plain, chain, earlier, last, call, runs, reads, ofRuns, callee, nested, lambdas⟩

end Reading

end Call

end KotlinLint
