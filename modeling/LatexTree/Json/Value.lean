import LatexTree.Number.Layout

/-! JSON values. An object keeps its members in the order in which they are written. -/
namespace LatexTree.Json

inductive Number where
  | natural (value : Nat)
  /-- The number below zero with this absolute value. -/
  | negative (value : Nat)
  | real (value : Binary64)
deriving DecidableEq, Repr

/-- Numbers have an exponent from 10^16 on and below 10^-5; a whole real number keeps its point. -/
def numberLayout : NumberLayout := ⟨fun point => -5 < point && point ≤ 16, true⟩

def Number.chars : Number → List Char
  | .natural value => Nat.toDigits 10 value
  | .negative value => '-' :: Nat.toDigits 10 value
  | .real value => numberLayout.binary64 value

inductive Value where
  | null
  | bool (value : Bool)
  | number (value : Number)
  | text (value : String)
  | list (items : List Value)
  | object (members : List (String × Value))
deriving Repr, Inhabited

def Value.nat (n : Nat) : Value := .number (.natural n)

/-- Puts a member among members sorted by name, in the place of one of the same name. -/
def putMember (name : String) (value : Value) : List (String × Value) → List (String × Value)
  | [] => [(name, value)]
  | (name', value') :: rest =>
    if name < name' then (name, value) :: (name', value') :: rest
    else if name = name' then (name, value) :: rest
    else (name', value') :: putMember name value rest

end LatexTree.Json
