import LatexTree.Merge.Refusal
import LatexTree.Node.Traversal

/-! Structural validity: no node is inverted, and of two neighbouring children the first ends no
later than the second starts. -/
namespace LatexTree

def Forest.firstClash : List Node → Option (Node × Node)
  | previous :: next :: rest =>
    if previous.span.Before next.span then Forest.firstClash (next :: rest)
    else some (previous, next)
  | _ => none

namespace Node

/-- What is wrong with the node itself, or else with the order of its children. -/
def violation (node : Node) : Option Refusal :=
  if node.span.Inverted ∨ node.loc.Inverted then some (.inverted node.tag node.span)
  else
    (Forest.firstClash (node.children?.getD [])).map fun clash =>
      .overlap node.label clash.1.label clash.2.label

def validate (root : Node) : Except Refusal Unit :=
  match root.subtrees.findSome? violation with
  | some refusal => .error refusal
  | none => .ok ()

end Node

end LatexTree
