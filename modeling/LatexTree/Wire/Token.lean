import LatexTree.Comment
import LatexTree.Wire.Place

/-! Comment tokens in JSON. The kind may be left out; it is a name, or an object with that name and
null. -/
namespace LatexTree.Wire
open Json

def kindValue : CommentKind → Value
  | .comment => .text "comment"

def kindNamed (name : String) : Except Fault CommentKind :=
  if name = "comment" then .ok .comment else .error (.unknownVariant name)

def readKind (budget : Nat) : Reader CommentKind := do
  match ← peek with
  | none => throw (.ended .value)
  | some '"' => advance; kindNamed (← readText)
  | some '\x7b' =>
    openBracket budget
    let name ← match ← peek with
      | some '"' => advance; readText
      | some '\x7d' => throw .expectedValue
      | some _ => throw .keyNotText
      | none => throw (.ended .object)
    let kind ← kindNamed name
    readColon
    readNull
    match ← peek with
    | none => throw (.ended .object)
    | some '\x7d' => advance; return kind
    | some _ => throw .expectedValue
  | some _ => throw .expectedValue

def tokenPositionValue (position : TokenPosition) : Value := .object [
  ("offset", .nat position.offset), ("line", .nat position.line), ("column", .nat position.column)]

structure TokenPositionDraft where
  offset : Option Nat := none
  line : Option Nat := none
  column : Option Nat := none

def tokenPositionShape (_ : Nat) : Shape TokenPositionDraft TokenPosition where
  name := "TokenPosition"
  draft := {}
  fields := [
    ⟨"offset", true, (·.offset.isSome),
      fun draft => return { draft with offset := some (← readNat) }⟩,
    ⟨"line", true, (·.line.isSome), fun draft => return { draft with line := some (← readNat) }⟩,
    ⟨"column", true, (·.column.isSome),
      fun draft => return { draft with column := some (← readNat) }⟩]
  finish draft :=
    return ⟨← need "offset" draft.offset, ← need "line" draft.line, ← need "column" draft.column⟩

def readTokenPosition (budget : Nat) : Reader TokenPosition := readRecord budget tokenPositionShape

def tokenLocationValue (location : TokenLocation) : Value := .object [
  ("start", tokenPositionValue location.start), ("end", tokenPositionValue location.stop)]

structure TokenLocationDraft where
  start : Option TokenPosition := none
  stop : Option TokenPosition := none

def tokenLocationShape (budget : Nat) : Shape TokenLocationDraft TokenLocation where
  name := "TokenLocation"
  draft := {}
  fields := [
    ⟨"start", true, (·.start.isSome),
      fun draft => return { draft with start := some (← readTokenPosition budget) }⟩,
    ⟨"end", true, (·.stop.isSome),
      fun draft => return { draft with stop := some (← readTokenPosition budget) }⟩]
  finish draft := return ⟨← need "start" draft.start, ← need "end" draft.stop⟩

def readTokenLocation (budget : Nat) : Reader TokenLocation := readRecord budget tokenLocationShape

def tokenValue (token : CommentToken) : Value := .object [
  ("kind", kindValue token.kind), ("content", .text token.content),
  ("location", tokenLocationValue token.location)]

structure TokenDraft where
  kind : Option CommentKind := none
  content : Option String := none
  location : Option TokenLocation := none

def tokenShape (budget : Nat) : Shape TokenDraft CommentToken where
  name := "CommentToken"
  draft := {}
  fields := [
    ⟨"kind", false, (·.kind.isSome),
      fun draft => return { draft with kind := some (← readKind budget) }⟩,
    ⟨"content", true, (·.content.isSome),
      fun draft => return { draft with content := some (← readString) }⟩,
    ⟨"location", true, (·.location.isSome),
      fun draft => return { draft with location := some (← readTokenLocation budget) }⟩]
  finish draft :=
    return ⟨draft.kind.getD .comment, ← need "content" draft.content,
      ← need "location" draft.location⟩

def readToken (budget : Nat) : Reader CommentToken := readRecord budget tokenShape

end LatexTree.Wire
