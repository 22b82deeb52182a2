import LatexTree.Node
import LatexTree.Wire.Place

/-! Trees in JSON.

A node with children is a parent, one without is a leaf. A leaf without a value has an empty one, and
the value of a parent is passed over. -/
namespace LatexTree.Wire
open Json

mutual

def nodeValue : Node → Value
  | .parent head children => .object [
      ("type", .text head.tag), ("raw", .text head.raw), ("range", spanValue head.span),
      ("loc", locationValue head.loc), ("children", .list (forestValues children))]
  | .leaf head value => .object [
      ("type", .text head.tag), ("raw", .text head.raw), ("range", spanValue head.span),
      ("loc", locationValue head.loc), ("value", .text value)]

def forestValues : List Node → List Value
  | [] => []
  | node :: rest => nodeValue node :: forestValues rest

end

/-- Null counts as read, and as no children or no value. -/
structure NodeDraft where
  tag : Option String := none
  raw : Option String := none
  span : Option Span := none
  loc : Option Location := none
  children : Option (Option (List Node)) := none
  value : Option (Option String) := none

def NodeDraft.finish (draft : NodeDraft) : Except Fault Node := do
  let head : Head := ⟨← need "type" draft.tag, ← need "raw" draft.raw, ← need "range" draft.span,
    ← need "loc" draft.loc⟩
  return match draft.children.join with
    | some children => .parent head children
    | none => .leaf head (draft.value.join.getD "")

def nodeShape (child : Reader Node) (budget : Nat) : Shape NodeDraft Node where
  name := "WireNode"
  draft := {}
  fields := [
    ⟨"type", true, (·.tag.isSome), fun draft => return { draft with tag := some (← readString) }⟩,
    ⟨"raw", true, (·.raw.isSome), fun draft => return { draft with raw := some (← readString) }⟩,
    ⟨"range", true, (·.span.isSome),
      fun draft => return { draft with span := some (← readSpan budget) }⟩,
    ⟨"loc", true, (·.loc.isSome),
      fun draft => return { draft with loc := some (← readLocation budget) }⟩,
    ⟨"children", false, (·.children.isSome), fun draft =>
      return { draft with children := some (← readOptional (readList budget fun _ => child)) }⟩,
    ⟨"value", false, (·.value.isSome),
      fun draft => return { draft with value := some (← readOptional readString) }⟩]
  finish := NodeDraft.finish

/-- A child stands two brackets below its parent. -/
def readNode : Nat → Reader Node
  | 0 => readRecord 0 (nodeShape (throw .tooDeep))
  | 1 => readRecord 1 (nodeShape (throw .tooDeep))
  | budget + 2 => readRecord (budget + 2) (nodeShape (readNode budget))

end LatexTree.Wire
