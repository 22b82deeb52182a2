import LatexTree.Node

/-! Why a merge is refused, and how the refusal reads. -/
namespace LatexTree

structure Label where
  tag : String
  span : Span
deriving DecidableEq, Repr, Inhabited

def Label.text (label : Label) : String := s!"{label.tag} {label.span.text}"

def Node.label (node : Node) : Label := ⟨node.tag, node.span⟩

inductive Refusal where
  | leafRoot (tag : String)
  /-- A node ends before it starts, by its offsets or by its lines and columns. -/
  | inverted (tag : String) (span : Span)
  | outside (span : Span) (length : Nat)
  /-- Two neighbours overlap or stand in the wrong order. -/
  | overlap (parent previous next : Label)
deriving DecidableEq, Repr

def Refusal.message : Refusal → String
  | .leafRoot tag => s!"root node {tag} has no children to merge comments into"
  | .inverted tag span => s!"{tag} has inverted range {span.text}"
  | .outside span length =>
    s!"comment range {span.text} lies outside the document text ({length} UTF-16 code units)"
  | .overlap parent previous next =>
    s!"in {parent.text}: {previous.text} overlaps the following {next.text}"

end LatexTree
