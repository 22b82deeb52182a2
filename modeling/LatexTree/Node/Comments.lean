import LatexTree.Node.Traversal

/-! Comments in a tree: counting, removing and finding them. -/
namespace LatexTree

def Event.isCommentLeaf : Event → Bool
  | .leaf _ head _ => head.tag == Tag.comment
  | _ => false

def Node.commentCount (node : Node) : Nat := (node.events 0).countP Event.isCommentLeaf

mutual

/-- Drops every comment below the node, with all that stands under it; the node itself stays. -/
def Node.stripComments : Node → Node
  | .parent head children => .parent head (Forest.stripComments children)
  | .leaf head value => .leaf head value

def Forest.stripComments : List Node → List Node
  | [] => []
  | node :: rest =>
    if node.isComment then Forest.stripComments rest
    else node.stripComments :: Forest.stripComments rest

end

mutual

/-- The tags from the node down to the parent of the first comment that starts at the offset. -/
def Node.commentPath (start : Nat) : Node → Option (List String)
  | .parent head children => (Forest.commentPath start children).map (head.tag :: ·)
  | .leaf .. => none

def Forest.commentPath (start : Nat) : List Node → Option (List String)
  | [] => none
  | node :: rest =>
    if node.isComment ∧ node.span.start = start then some []
    else (node.commentPath start).or (Forest.commentPath start rest)

end

end LatexTree
