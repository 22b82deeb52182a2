import LatexTree.Position
import LatexTree.Span

/-! The text of a document, addressed by offsets in UTF-16 code units.

A character outside the basic plane takes two units, so an offset can fall inside a character; such
an offset cuts no slice. Positions are defined for every offset, also past the end. -/
namespace LatexTree

def unitWidth (c : Char) : Nat := if c.toNat < 0x10000 then 1 else 2

def unitLength : List Char → Nat
  | [] => 0
  | c :: rest => unitWidth c + unitLength rest

/-- Where each character begins, and last where the text ends: in code units and in bytes. -/
def boundariesFrom (unit byte : Nat) : List Char → List (Nat × Nat)
  | [] => [(unit, byte)]
  | c :: rest => (unit, byte) :: boundariesFrom (unit + unitWidth c) (byte + c.utf8Size) rest

def lineStartsFrom (offset : Nat) : List Char → List Nat
  | [] => []
  | c :: rest =>
    let next := offset + unitWidth c
    if c = '\n' then next :: lineStartsFrom next rest else lineStartsFrom next rest

/-- Where a number stands in an ascending table, or else where it would have to be put in. -/
def search (number : Nat) : List Nat → Except Nat Nat
  | [] => .error 0
  | entry :: rest =>
    if entry < number then
      match search number rest with
      | .ok index => .ok (index + 1)
      | .error index => .error (index + 1)
    else if entry = number then .ok 0
    else .error 0

/-- The entry that is the number, or else the one before the place where it would have to be put in. -/
def lastReached (number : Nat) (table : List Nat) : Nat :=
  match search number table with
  | .ok index => index
  | .error place => place - 1

structure Source where
  chars : List Char
deriving DecidableEq, Repr, Inhabited

namespace Source

def ofString (text : String) : Source := ⟨text.toList⟩

def text (source : Source) : String := String.ofList source.chars

def length (source : Source) : Nat := unitLength source.chars

def isEmpty (source : Source) : Bool := source.chars.isEmpty

def boundaries (source : Source) : List (Nat × Nat) := boundariesFrom 0 0 source.chars

def lineStarts (source : Source) : List Nat := 0 :: lineStartsFrom 0 source.chars

def lineCount (source : Source) : Nat := source.lineStarts.length

/-- The byte at an offset in units, unless it falls inside a character or past the text. -/
def byteOffset? (source : Source) (offset : Nat) : Option Nat :=
  match search offset (source.boundaries.map Prod.fst) with
  | .ok index => (source.boundaries[index]?).map Prod.snd
  | .error _ => none

def slice (source : Source) (span : Span) : Option String :=
  if span.Inverted then none
  else do
    let start ← source.byteOffset? span.start
    let stop ← source.byteOffset? span.stop
    return String.Pos.Raw.extract source.text ⟨start⟩ ⟨stop⟩

def position (source : Source) (offset : Nat) : Position :=
  let line := lastReached offset source.lineStarts
  ⟨line + 1, offset - source.lineStarts.getD line 0⟩

def location (source : Source) (span : Span) : Location :=
  ⟨source.position span.start, source.position span.stop⟩

end Source

end LatexTree
