/-! Finite floating-point numbers of 64 bits, in exact integer arithmetic.

A magnitude is a significand below 2^53 times a power of two. Results are rounded to the nearest
magnitude, a tie going to the even significand. -/
namespace LatexTree

/-- The quotient rounded to the nearest number, a half to the even one. -/
def roundDiv (num den : Nat) : Nat :=
  let quotient := num / den
  let twice := 2 * (num % den)
  if twice < den ∨ twice = den ∧ quotient % 2 = 0 then quotient else quotient + 1

structure Magnitude where
  significand : Nat
  exponent : Int
deriving DecidableEq, Repr

structure Binary64 where
  negative : Bool
  magnitude : Magnitude
deriving DecidableEq, Repr

namespace Magnitude

def leastExponent : Int := -1074

def mostExponent : Int := 971

def zero : Magnitude := ⟨0, leastExponent⟩

instance : Inhabited Magnitude := ⟨zero⟩

/-- The exponent that gives `num / den` a significand of 53 bits, or the least exponent. -/
def exponentOf (num den : Nat) : Int :=
  let gap : Int := num.log2 - den.log2
  let reached := den * Nat.pow 2 gap.toNat ≤ num * Nat.pow 2 (-gap).toNat
  max ((if reached then gap else gap - 1) - 52) leastExponent

/-- The magnitude nearest to `num / den`, unless that is too large. -/
def ofRatio (num den : Nat) : Option Magnitude :=
  if num = 0 then some zero
  else
    let exponent := exponentOf num den
    let significand :=
      roundDiv (num * Nat.pow 2 (-exponent).toNat) (den * Nat.pow 2 exponent.toNat)
    let rounded : Magnitude :=
      if significand = Nat.pow 2 53 then ⟨Nat.pow 2 52, exponent + 1⟩ else ⟨significand, exponent⟩
    if mostExponent < rounded.exponent then none else some rounded

def ofNat (n : Nat) : Magnitude := (ofRatio n 1).getD zero

def mul (first second : Magnitude) : Option Magnitude :=
  let exponent := first.exponent + second.exponent
  ofRatio (first.significand * second.significand * Nat.pow 2 exponent.toNat)
    (Nat.pow 2 (-exponent).toNat)

def div (first second : Magnitude) : Option Magnitude :=
  let exponent := first.exponent - second.exponent
  ofRatio (first.significand * Nat.pow 2 exponent.toNat)
    (second.significand * Nat.pow 2 (-exponent).toNat)

def mostTen : Nat := 308

def tenTo (power : Nat) : Magnitude := ofNat (Nat.pow 10 power)

/-- `significand * 10 ^ exponent` by one rounded product or by rounded quotients, each of them with
a rounded power of ten. -/
def scaleTen (value : Magnitude) (exponent : Int) : Option Magnitude :=
  if value.significand = 0 then some zero
  else if 0 ≤ exponent then
    if exponent.toNat ≤ mostTen then value.mul (tenTo exponent.toNat) else none
  else if (-exponent).toNat ≤ mostTen then value.div (tenTo (-exponent).toNat)
  else
    match value.div (tenTo mostTen) with
    | none => none
    | some quotient => quotient.scaleTen (exponent + mostTen)
termination_by exponent.natAbs
decreasing_by simp only [mostTen] at *; omega

def nearestDecimal (digits : Nat) (exponent : Int) : Option Magnitude :=
  if digits = 0 then some zero
  else
    let point := exponent + (Nat.toDigits 10 digits).length
    if 310 < point then none
    else if point < -330 then some zero
    else ofRatio (digits * Nat.pow 10 exponent.toNat) (Nat.pow 10 (-exponent).toNat)

end Magnitude

end LatexTree
