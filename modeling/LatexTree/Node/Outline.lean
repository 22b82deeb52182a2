import LatexTree.Node.Traversal
import LatexTree.Text.Quoted

/-! The outline of a tree: a line for each node, indented by its depth, with the tag, the span and,
for a leaf, the quoted value. -/
namespace LatexTree

def indent (depth : Nat) : String := String.ofList (List.replicate (2 * depth) ' ')

def Event.outline : Event → String
  | .enter depth head => indent depth ++ head.tag ++ " " ++ head.span.text ++ "\n"
  | .leave .. => ""
  | .leaf depth head value =>
    indent depth ++ head.tag ++ " " ++ head.span.text ++ " " ++ quoted value ++ "\n"

def Node.outline (node : Node) : String := String.join ((node.events 0).map Event.outline)

def Forest.outline (forest : List Node) : String := String.join (forest.map Node.outline)

end LatexTree
