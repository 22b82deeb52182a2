/-! Sets of characters, given by the ranges of their code points. -/
namespace LatexTree

/-- Ranges of code points in order, in parts below U+2000, below U+10000 and from there on. -/
structure CodeSet where
  low : List (Nat × Nat)
  basic : List (Nat × Nat)
  high : List (Nat × Nat)

/-- Whether one of the ranges holds the number; they are in order, so the search ends early. -/
def covered (n : Nat) : List (Nat × Nat) → Bool
  | [] => false
  | (low, high) :: rest => if n < low then false else n ≤ high || covered n rest

def CodeSet.contains (set : CodeSet) (c : Char) : Bool :=
  let n := c.toNat
  if n < 0x2000 then covered n set.low
  else if n < 0x10000 then covered n set.basic
  else covered n set.high

end LatexTree
