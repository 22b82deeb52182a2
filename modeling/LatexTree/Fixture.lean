import LatexTree.Comment
import LatexTree.Text.Quoted

/-! Trees and tokens cut out of a text, for trying the library on. -/
namespace LatexTree

/-- A span that cuts no slice out of the text. -/
structure Misfit where
  span : Span
  text : String
deriving DecidableEq, Repr

def Misfit.message (misfit : Misfit) : String :=
  s!"fixture range {misfit.span.text} is outside {quoted misfit.text}"

structure Fixture where
  text : String
deriving DecidableEq, Repr

namespace Fixture

def source (fixture : Fixture) : Source := .ofString fixture.text

def slice (fixture : Fixture) (span : Span) : Except Misfit String :=
  match fixture.source.slice span with
  | some slice => .ok slice
  | none => .error ⟨span, fixture.text⟩

def head (fixture : Fixture) (tag : String) (span : Span) : Except Misfit Head :=
  return ⟨tag, ← fixture.slice span, span, fixture.source.location span⟩

def leaf (fixture : Fixture) (tag : String) (span : Span) : Except Misfit Node := do
  let head ← fixture.head tag span
  return .leaf head head.raw

def parent (fixture : Fixture) (tag : String) (span : Span) (children : List Node) :
    Except Misfit Node :=
  return .parent (← fixture.head tag span) children

def document (fixture : Fixture) (children : List Node) : Node :=
  let span : Span := ⟨0, fixture.source.length⟩
  .parent ⟨Tag.document, fixture.text, span, fixture.source.location span⟩ children

/-- A comment without its mark and without the line ends after it. -/
def content (raw : List Char) : List Char :=
  let unmarked := match raw with
    | '%' :: rest => rest
    | raw => raw
  (unmarked.reverse.dropWhile (· = '\n')).reverse

def tokenPosition (fixture : Fixture) (offset : Nat) : TokenPosition :=
  let position := fixture.source.position offset
  ⟨offset, position.line, position.column + 1⟩

def comment (fixture : Fixture) (span : Span) : Except Misfit CommentToken := do
  let raw ← fixture.slice span
  return ⟨.comment, String.ofList (content raw.toList),
    ⟨fixture.tokenPosition span.start, fixture.tokenPosition span.stop⟩⟩

def commentLeaf (fixture : Fixture) (span : Span) : Except Misfit Node := do
  let token ← fixture.comment span
  return .leaf (← fixture.head Tag.comment span) token.content

end Fixture

end LatexTree
