import LatexTree.Json.Record
import LatexTree.Json.Writer
import LatexTree.Position
import LatexTree.Span

/-! Spans, positions and locations in JSON. A span is a list of two numbers. -/
namespace LatexTree.Wire
open Json

def spanValue (span : Span) : Value := .list [.nat span.start, .nat span.stop]

def readEnd (index : Nat) : Reader Nat := do
  if ← nextItem (index = 0) then readNat else throw (.wrongLength index .pair)

def readSpan (budget : Nat) : Reader Span := do
  match ← peek with
  | some '[' =>
    openBracket budget
    let start ← readEnd 0
    let stop ← readEnd 1
    closeList
    return ⟨start, stop⟩
  | _ => mismatch .pair

def positionValue (position : Position) : Value :=
  .object [("line", .nat position.line), ("column", .nat position.column)]

structure PositionDraft where
  line : Option Nat := none
  column : Option Nat := none

def positionShape (_ : Nat) : Shape PositionDraft Position where
  name := "Position"
  draft := {}
  fields := [
    ⟨"line", true, (·.line.isSome), fun draft => return { draft with line := some (← readNat) }⟩,
    ⟨"column", true, (·.column.isSome),
      fun draft => return { draft with column := some (← readNat) }⟩]
  finish draft := return ⟨← need "line" draft.line, ← need "column" draft.column⟩

def readPosition (budget : Nat) : Reader Position := readRecord budget positionShape

def locationValue (location : Location) : Value :=
  .object [("start", positionValue location.start), ("end", positionValue location.stop)]

structure LocationDraft where
  start : Option Position := none
  stop : Option Position := none

def locationShape (budget : Nat) : Shape LocationDraft Location where
  name := "Location"
  draft := {}
  fields := [
    ⟨"start", true, (·.start.isSome),
      fun draft => return { draft with start := some (← readPosition budget) }⟩,
    ⟨"end", true, (·.stop.isSome),
      fun draft => return { draft with stop := some (← readPosition budget) }⟩]
  finish draft := return ⟨← need "start" draft.start, ← need "end" draft.stop⟩

def readLocation (budget : Nat) : Reader Location := readRecord budget locationShape

end LatexTree.Wire
