import LatexTree.Number.Shortest

/-! How decimal digits are laid out as text. -/
namespace LatexTree

/-- A format for numbers. `plain` gives the positions of the decimal point, counted from the first
digit, for which no exponent is written. -/
structure NumberLayout where
  plain : Int → Bool
  wholePoint : Bool

namespace NumberLayout

def zeros (count : Nat) : List Char := List.replicate count '0'

def positional (layout : NumberLayout) (digits : List Char) (point : Int) : List Char :=
  if point ≤ 0 then ['0', '.'] ++ zeros (-point).toNat ++ digits
  else if digits.length ≤ point.toNat then
    digits ++ zeros (point.toNat - digits.length) ++ (if layout.wholePoint then ['.', '0'] else [])
  else digits.take point.toNat ++ ['.'] ++ digits.drop point.toNat

def scientific (digits : List Char) (power : Int) : List Char :=
  let fraction := digits.drop 1
  digits.take 1 ++ (if fraction.isEmpty then [] else '.' :: fraction) ++
    ['e', if power < 0 then '-' else '+'] ++ Nat.toDigits 10 power.natAbs

def magnitude (layout : NumberLayout) (value : Magnitude) : List Char :=
  if value.significand = 0 then '0' :: (if layout.wholePoint then ['.', '0'] else [])
  else
    let decimal := value.shortest
    let digits := Nat.toDigits 10 decimal.digits
    let point := decimal.exponent + digits.length
    if layout.plain point then layout.positional digits point
    else scientific digits (point - 1)

def binary64 (layout : NumberLayout) (value : Binary64) : List Char :=
  (if value.negative then ['-'] else []) ++ layout.magnitude value.magnitude

end NumberLayout

end LatexTree
