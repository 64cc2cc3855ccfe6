import KotlinLint.Span

/-!
# Calls

Of the body of a function only its calls are kept, as a forest: a call holds the calls of its
receiver and of its arguments, and the blocks of its trailing lambdas. The calls of a block
have one order, each call before those it holds (`Block.preorder`), and a search by name
answers the first in this order (`Block.find?`).
-/

namespace KotlinLint

mutual

/-- A call such as `setContent { … }` or `view.apply(x)`. -/
structure Call where
  /-- The called name: the last segment of what is called. -/
  callee : String
  /-- Where the whole call is written. -/
  span : Span
  /-- The calls of the receiver and of the arguments. -/
  nested : List Call
  /-- The trailing lambdas. -/
  lambdas : List Block

/-- A function body or the body of a lambda. -/
structure Block where
  /-- Where the block is written. -/
  span : Span
  /-- The outermost calls. -/
  calls : List Call

end

mutual

/-- A call, then the calls it holds. -/
def Call.preorder : Call → List Call
  | call@⟨_, _, nested, lambdas⟩ => call :: (Call.preorderAll nested ++ Block.preorderAll lambdas)

/-- The calls of a list of calls, in preorder. -/
def Call.preorderAll : List Call → List Call
  | [] => []
  | call :: rest => call.preorder ++ Call.preorderAll rest

/-- The calls of a block, each before those it holds. -/
def Block.preorder : Block → List Call
  | ⟨_, calls⟩ => Call.preorderAll calls

/-- The calls of a list of blocks, in preorder. -/
def Block.preorderAll : List Block → List Call
  | [] => []
  | block :: rest => block.preorder ++ Block.preorderAll rest

end

mutual

/-- The first call of a name among a call and those it holds. -/
def Call.find? (name : String) : Call → Option Call
  | call@⟨callee, _, nested, lambdas⟩ =>
    if callee = name then some call
    else (Call.findAny? name nested).or (Block.findAny? name lambdas)

/-- The first call of a name in a list of calls. -/
def Call.findAny? (name : String) : List Call → Option Call
  | [] => none
  | call :: rest => (call.find? name).or (Call.findAny? name rest)

/-- The first call of a name in a block. -/
def Block.find? (name : String) : Block → Option Call
  | ⟨_, calls⟩ => Call.findAny? name calls

/-- The first call of a name in a list of blocks. -/
def Block.findAny? (name : String) : List Block → Option Call
  | [] => none
  | block :: rest => (block.find? name).or (Block.findAny? name rest)

end

/-- The first trailing lambda of a call. -/
def Call.firstLambda (call : Call) : Option Block := call.lambdas.head?

end KotlinLint
