/-! Lines and columns. Lines count from one, columns from zero and in UTF-16 code units. -/
namespace LatexTree

structure Position where
  line : Nat
  column : Nat
deriving DecidableEq, Repr

instance : Inhabited Position := ⟨⟨1, 0⟩⟩

namespace Position

/-- Earlier line first, earlier column within a line. -/
instance : Ord Position where
  compare first second :=
    (compare first.line second.line).then (compare first.column second.column)

instance : LT Position where
  lt first second :=
    first.line < second.line ∨ first.line = second.line ∧ first.column < second.column

instance (first second : Position) : Decidable (first < second) :=
  inferInstanceAs (Decidable (_ ∨ _))

def text (position : Position) : String := s!"{position.line}:{position.column}"

end Position

structure Location where
  start : Position
  stop : Position
deriving DecidableEq, Repr, Inhabited

namespace Location

def Inverted (location : Location) : Prop := location.stop < location.start

instance (location : Location) : Decidable location.Inverted :=
  inferInstanceAs (Decidable (_ < _))

def text (location : Location) : String := s!"{location.start.text}..{location.stop.text}"

end Location

end LatexTree
