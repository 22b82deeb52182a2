import LatexTree.Node
import LatexTree.Source

/-! Comment tokens, as a scanner reports them beside the tree.

A token's columns count from one, those of the tree from zero. -/
namespace LatexTree

inductive CommentKind where
  | comment
deriving DecidableEq, Repr, Inhabited

structure TokenPosition where
  offset : Nat
  line : Nat
  column : Nat
deriving DecidableEq, Repr, Inhabited

structure TokenLocation where
  start : TokenPosition
  stop : TokenPosition
deriving DecidableEq, Repr, Inhabited

structure CommentToken where
  kind : CommentKind
  content : String
  location : TokenLocation
deriving DecidableEq, Repr, Inhabited

/-- The position in the tree's columns; a column of zero stays zero. -/
def TokenPosition.inTree (position : TokenPosition) : Position :=
  ⟨position.line, position.column - 1⟩

namespace CommentToken

def span (token : CommentToken) : Span := ⟨token.location.start.offset, token.location.stop.offset⟩

def loc (token : CommentToken) : Location :=
  ⟨token.location.start.inTree, token.location.stop.inTree⟩

end CommentToken

end LatexTree
