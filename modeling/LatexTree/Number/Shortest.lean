import LatexTree.Number.Binary64

/-! The fewest decimal digits that read back as the same magnitude; of several the nearest, and of
two equally near the even one. -/
namespace LatexTree

structure Decimal where
  digits : Nat
  exponent : Int
deriving DecidableEq, Repr, Inhabited

namespace Magnitude

/-- The lower neighbour of a power of two is only half as far away. -/
def narrowBelow (value : Magnitude) : Bool :=
  value.significand == Nat.pow 2 52 && value.exponent != leastExponent

/-- The multiple of `10 ^ power` that reads back as the value, if there is one. All lengths are
counted in quarters of the last binary place. -/
def onGrid (value : Magnitude) (power : Int) : Option Nat :=
  let place := value.exponent - 2
  let cell := Nat.pow 10 power.toNat * Nat.pow 2 (-place).toNat
  let quarter := Nat.pow 2 place.toNat * Nat.pow 10 (-power).toNat
  let exact := 4 * value.significand * quarter
  let low := (4 * value.significand - if value.narrowBelow then 1 else 2) * quarter
  let high := (4 * value.significand + 2) * quarter
  let inside (n : Nat) : Bool :=
    if value.significand % 2 = 0 then low ≤ n * cell && n * cell ≤ high
    else low < n * cell && n * cell < high
  let below := exact / cell
  let above := below + 1
  let preferBelow : Bool :=
    let twice := 2 * exact
    let middle := (2 * below + 1) * cell
    twice < middle || twice == middle && below % 2 == 0
  if inside below && (preferBelow || !inside above) then some below
  else if inside above then some above
  else none

def shortestFrom (value : Magnitude) : Nat → Int → Decimal
  | 0, power => ⟨0, power⟩
  | steps + 1, power =>
    match value.onGrid power with
    | some digits => ⟨digits, power⟩
    | none => value.shortestFrom steps (power - 1)

/-- The first grid is wider than the value, and seventeen digits always read back. -/
def shortest (value : Magnitude) : Decimal :=
  if value.significand = 0 then ⟨0, 0⟩
  else
    let bits := value.exponent + value.significand.log2 + 1
    value.shortestFrom 24 (bits * 30103 / 100000 + 2)

end Magnitude

end LatexTree
