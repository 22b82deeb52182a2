import LatexTree.Merge.Leaf
import LatexTree.Merge.Placement
import LatexTree.Merge.Validity

/-! Merging comment tokens into a tree, and the log that the merge leaves.

All tokens become leaves before the first one is placed, and the tree is checked once, after the
last one. -/
namespace LatexTree

structure Request where
  source : Source
  root : Node
  comments : Option (List CommentToken)
deriving Repr

inductive LogEvent where
  | leafMade (span : Span) (loc : Location)
  | started (count : Nat)
  | placed (placement : Placement)
  | refused (refusal : Refusal)
deriving DecidableEq, Repr

namespace Request

def tokens (request : Request) : List CommentToken := request.comments.getD []

/-- The root over its children and the comments, not yet checked. -/
def assemble (request : Request) (children comments : List Node) : Node :=
  request.root.withChildren (Forest.insertAll children comments)

def complete (request : Request) : Except Refusal Node :=
  match request.root with
  | .leaf head _ => .error (.leafRoot head.tag)
  | .parent _ children => do
    let comments ← commentLeaves request.source request.tokens
    let merged := request.assemble children comments
    merged.validate
    return merged

/-- One event for each token up to the first that makes no leaf. -/
def leafEvents (request : Request) : List LogEvent :=
  (request.tokens.takeWhile fun token => (token.toNode request.source).isOk).map fun token =>
    .leafMade token.span token.loc

def log (request : Request) : List LogEvent :=
  match request.root with
  | .leaf .. => []
  | .parent _ children =>
    request.leafEvents ++
      match commentLeaves request.source request.tokens with
      | .error _ => []
      | .ok comments =>
        .started comments.length ::
          ((Forest.placements children comments).map .placed ++
            match (request.assemble children comments).validate with
            | .error refusal => [.refused refusal]
            | .ok _ => [])

end Request

end LatexTree
