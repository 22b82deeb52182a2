import LatexTree.Comment
import LatexTree.Merge.Refusal

/-! The leaf that stands for a comment token in the tree. -/
namespace LatexTree

/-- The leaf takes its raw text from the source and its value from the token. -/
def CommentToken.toNode (source : Source) (token : CommentToken) : Except Refusal Node :=
  if token.span.Inverted then .error (.inverted Tag.comment token.span)
  else
    match source.slice token.span with
    | none => .error (.outside token.span source.length)
    | some raw => .ok (.leaf ⟨Tag.comment, raw, token.span, token.loc⟩ token.content)

def commentLeaves (source : Source) (tokens : List CommentToken) : Except Refusal (List Node) :=
  tokens.mapM (·.toNode source)

end LatexTree
