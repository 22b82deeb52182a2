import LatexTree.Node

/-! Depth-first traversal: a parent is entered, then its children are met one level deeper, then it
is left. -/
namespace LatexTree

inductive Event where
  | enter (depth : Nat) (head : Head)
  | leave (depth : Nat) (head : Head)
  | leaf (depth : Nat) (head : Head) (value : String)
deriving DecidableEq, Repr

mutual

def Node.events (depth : Nat) : Node → List Event
  | .parent head children =>
    .enter depth head :: (Forest.events (depth + 1) children ++ [.leave depth head])
  | .leaf head value => [.leaf depth head value]

def Forest.events (depth : Nat) : List Node → List Event
  | [] => []
  | node :: rest => node.events depth ++ Forest.events depth rest

end

mutual

/-- The node and everything below it, each before its own children. -/
def Node.subtrees : Node → List Node
  | .parent head children => .parent head children :: Forest.subtrees children
  | .leaf head value => [.leaf head value]

def Forest.subtrees : List Node → List Node
  | [] => []
  | node :: rest => node.subtrees ++ Forest.subtrees rest

end

namespace Event

def text : Event → String
  | .enter depth head => s!"{depth}>{head.tag}"
  | .leave depth head => s!"{depth}<{head.tag}"
  | .leaf depth head _ => s!"{depth}.{head.tag}"

end Event

end LatexTree
