import LatexTree.Position
import LatexTree.Span

/-! Document trees.

A node is a parent with children or a leaf with a value. The tag names the kind of node and is open:
the shape is told by the constructor alone. -/
namespace LatexTree

structure Head where
  tag : String
  raw : String
  span : Span
  loc : Location
deriving DecidableEq, Repr, Inhabited

inductive Node where
  | parent (head : Head) (children : List Node)
  | leaf (head : Head) (value : String)
deriving Repr, Inhabited

abbrev Forest := List Node

namespace Tag

def document : String := "Document"

def str : String := "Str"

def comment : String := "Comment"

end Tag

mutual

def Node.decEq : (first second : Node) → Decidable (first = second)
  | .parent head children, .parent head' children' =>
    if sameHead : head = head' then
      match Forest.decEq children children' with
      | isTrue same => isTrue (by rw [sameHead, same])
      | isFalse differ => isFalse fun same => differ (by injection same)
    else isFalse fun same => sameHead (by injection same)
  | .leaf head value, .leaf head' value' =>
    if same : head = head' ∧ value = value' then isTrue (by rw [same.1, same.2])
    else isFalse fun equal => same (by injection equal with heads values; exact ⟨heads, values⟩)
  | .parent .., .leaf .. => isFalse nofun
  | .leaf .., .parent .. => isFalse nofun

def Forest.decEq : (first second : List Node) → Decidable (first = second)
  | [], [] => isTrue rfl
  | node :: rest, node' :: rest' =>
    match Node.decEq node node' with
    | isFalse differ => isFalse fun same => differ (by injection same)
    | isTrue same =>
      match Forest.decEq rest rest' with
      | isTrue sameRest => isTrue (by rw [same, sameRest])
      | isFalse differ => isFalse fun equal => differ (by injection equal)
  | [], _ :: _ => isFalse nofun
  | _ :: _, [] => isFalse nofun

end

instance : DecidableEq Node := Node.decEq

namespace Node

def head : Node → Head
  | .parent head _ => head
  | .leaf head _ => head

def tag (node : Node) : String := node.head.tag

def raw (node : Node) : String := node.head.raw

def span (node : Node) : Span := node.head.span

def loc (node : Node) : Location := node.head.loc

def isParent : Node → Bool
  | .parent .. => true
  | .leaf .. => false

/-- Told by the tag, so that a parent may be one too. -/
def isComment (node : Node) : Bool := node.tag == Tag.comment

def children? : Node → Option (List Node)
  | .parent _ children => some children
  | .leaf .. => none

def value? : Node → Option String
  | .parent .. => none
  | .leaf _ value => some value

/-- The same head over other children; a leaf becomes a parent. -/
def withChildren (node : Node) (children : List Node) : Node := .parent node.head children

end Node

end LatexTree
