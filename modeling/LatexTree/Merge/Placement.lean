import LatexTree.Node

/-! Where a comment goes.

Siblings are tried from left to right. The comment goes before the first sibling that starts at or
after its end; a parent that includes the comment takes it in among its own children; when no sibling
does either, the comment goes last. -/
namespace LatexTree

/-- Where a leaf went: so many levels down, at this index of its list, before a sibling or last. -/
structure Placement where
  span : Span
  depth : Nat
  index : Nat
  last : Bool
deriving DecidableEq, Repr, Inhabited

structure Settled (α : Type) where
  result : α
  placement : Placement
deriving Repr

mutual

/-- Settles a comment among siblings, the first of which has the given depth and index. -/
def Forest.settle (comment : Node) (depth index : Nat) : List Node → Settled (List Node)
  | [] => ⟨[comment], ⟨comment.span, depth, index, true⟩⟩
  | sibling :: rest =>
    if comment.span.Before sibling.span then
      ⟨comment :: sibling :: rest, ⟨comment.span, depth, index, false⟩⟩
    else
      match Node.takeIn comment (depth + 1) sibling with
      | some taken => ⟨taken.result :: rest, taken.placement⟩
      | none =>
        let settled := Forest.settle comment depth (index + 1) rest
        ⟨sibling :: settled.result, settled.placement⟩

def Node.takeIn (comment : Node) (depth : Nat) : Node → Option (Settled Node)
  | .leaf .. => none
  | .parent head children =>
    if head.span.Includes comment.span then
      let settled := Forest.settle comment depth 0 children
      some ⟨.parent head settled.result, settled.placement⟩
    else none

end

namespace Forest

def insert (forest : List Node) (comment : Node) : List Node :=
  (Forest.settle comment 0 0 forest).result

def place (forest : List Node) (comment : Node) : Placement :=
  (Forest.settle comment 0 0 forest).placement

/-- One comment after the other, each into what the ones before it left. -/
def insertAll (forest : List Node) (comments : List Node) : List Node :=
  comments.foldl insert forest

def placements : List Node → List Node → List Placement
  | _, [] => []
  | forest, comment :: rest => place forest comment :: placements (insert forest comment) rest

end Forest

end LatexTree
