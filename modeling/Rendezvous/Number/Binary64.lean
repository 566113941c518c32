/-! Finite binary64 numbers as exact integers, with rounding of a quotient to the nearest
one. No machine float takes part, so every value can be computed with in proofs. -/
namespace Rendezvous.Number

/-- The number `significand * 2 ^ (exponent - 1074)` with a sign. The significand has at most
53 bits, and all of them when the exponent is not zero. -/
structure Binary64 where
  negative : Bool
  significand : Nat
  exponent : Nat
  deriving DecidableEq, Repr, Inhabited

/-- The integer nearest to `num / den`, the even one of two. -/
def roundDiv (num den : Nat) : Nat :=
  let quotient := num / den
  let twice := 2 * (num % den)
  if twice < den then quotient
  else if den < twice then quotient + 1
  else if quotient % 2 = 0 then quotient else quotient + 1

/-- The number of binary digits, none for zero. -/
def bitLength (n : Nat) : Nat := if n = 0 then 0 else Nat.log2 n + 1

namespace Binary64

/-- The last exponent; a number that needs a larger one is out of range. -/
def lastExponent : Nat := 2045

def zero (negative : Bool) : Binary64 := ⟨negative, 0, 0⟩

def isZero (x : Binary64) : Bool := x.significand = 0

def negate (x : Binary64) : Binary64 := { x with negative := !x.negative }

/-- The nearest number to `num / den`, a half going to the even neighbour, or nothing if
that is out of range. -/
def ofQuotient (num den : Nat) : Option Binary64 :=
  let scaled := num * Nat.pow 2 1074
  let exponent := bitLength (scaled / den) - 53
  let significand := roundDiv scaled (den * Nat.pow 2 exponent)
  let (significand, exponent) :=
    if significand = Nat.pow 2 53 then (Nat.pow 2 52, exponent + 1) else (significand, exponent)
  if exponent ≤ lastExponent then some ⟨false, significand, exponent⟩ else none

def ofNat (n : Nat) : Option Binary64 := ofQuotient n 1

/-- The magnitude in units of `2 ^ -1074`. -/
def units (x : Binary64) : Nat := x.significand * Nat.pow 2 x.exponent

/-- Product of the magnitudes, rounded. -/
def mul (x y : Binary64) : Option Binary64 := ofQuotient (x.units * y.units) (Nat.pow 2 2148)

/-- Quotient of the magnitudes, rounded; the divisor is not zero. -/
def div (x y : Binary64) : Option Binary64 := ofQuotient x.units y.units

end Binary64
end Rendezvous.Number
