import LatexTree.Number.Layout
import LatexTree.Text.Digits

/-! Real numbers in settings: how they are read from text and written as text. -/
namespace LatexTree

inductive RealValue where
  | finite (value : Binary64)
  | infinite (negative : Bool)
  | undefined
deriving DecidableEq, Repr

namespace RealValue

/-- Never an exponent, and no point after a whole number. -/
def plainLayout : NumberLayout := ⟨fun _ => true, false⟩

def pointLayout : NumberLayout := ⟨fun _ => true, true⟩

def text (layout : NumberLayout) : RealValue → String
  | .finite value => String.ofList (layout.binary64 value)
  | .infinite negative => if negative then "-inf" else "inf"
  | .undefined => "NaN"

def isZero : RealValue → Bool
  | .finite value => value.magnitude.significand == 0
  | _ => false

def signed : List Char → Bool × List Char
  | '+' :: rest => (false, rest)
  | '-' :: rest => (true, rest)
  | rest => (false, rest)

def ofDecimal (negative : Bool) (digits : Nat) (exponent : Int) : RealValue :=
  match Magnitude.nearestDecimal digits exponent with
  | some magnitude => .finite ⟨negative, magnitude⟩
  | none => .infinite negative

def exponent? : List Char → Option Int
  | [] => some 0
  | mark :: rest =>
    let (negative, digits) := signed rest
    if (mark = 'e' ∨ mark = 'E') ∧ digits ≠ [] ∧ digits.all Char.isDigit then
      some (if negative then -(digitsValue digits : Int) else digitsValue digits)
    else none

/-- Digits with a point anywhere among them or beside them, then an exponent. -/
def unsigned? (negative : Bool) (text : List Char) : Option RealValue :=
  let whole := text.takeWhile Char.isDigit
  let rest := text.dropWhile Char.isDigit
  let (fraction, rest) := match rest with
    | '.' :: rest => (rest.takeWhile Char.isDigit, rest.dropWhile Char.isDigit)
    | rest => ([], rest)
  if whole.isEmpty ∧ fraction.isEmpty then none
  else
    (exponent? rest).map fun exponent =>
      ofDecimal negative (digitsValue (whole ++ fraction)) (exponent - fraction.length)

/-- Reads a decimal number, an infinity or an undefined number; the words in any case. -/
def parse? (text : String) : Option RealValue :=
  let (negative, rest) := signed text.toList
  let word := String.ofList (rest.map Char.toLower)
  if word = "inf" ∨ word = "infinity" then some (.infinite negative)
  else if word = "nan" then some .undefined
  else unsigned? negative rest

end RealValue

end LatexTree
