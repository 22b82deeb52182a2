import LatexTree.Wire.Node
import LatexTree.Wire.Token

/-! What a grammar gives for a text: a tree, and the comments that it left out of the tree. -/
namespace LatexTree

structure Parsed where
  root : Node
  comments : Option (List CommentToken)
deriving Repr, DecidableEq

namespace Wire
open Json

def parsedValue (parsed : Parsed) : Value := .object [
  ("ast", nodeValue parsed.root),
  ("comments", match parsed.comments with
    | none => .null
    | some tokens => .list (tokens.map tokenValue))]

structure ParsedDraft where
  root : Option Node := none
  comments : Option (Option (List CommentToken)) := none

def parsedShape (budget : Nat) : Shape ParsedDraft Parsed where
  name := "ParsedSource"
  draft := {}
  fields := [
    ⟨"ast", true, (·.root.isSome),
      fun draft => return { draft with root := some (← readNode budget) }⟩,
    ⟨"comments", false, (·.comments.isSome), fun draft =>
      return { draft with comments := some (← readOptional (readList budget readToken)) }⟩]
  finish draft := return ⟨← need "ast" draft.root, draft.comments.join⟩

def readParsed (budget : Nat) : Reader Parsed := readRecord budget parsedShape

end Wire

def Parsed.ofJson (text : String) : Except Json.Fault Parsed :=
  Json.decode (Wire.readParsed Json.depthLimit) text

end LatexTree
