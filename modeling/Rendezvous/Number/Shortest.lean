import Rendezvous.Number.Binary64

/-! The shortest decimal that reads back as a given binary64 number: the fewest digits on
which some decimal of the rounding interval lies, and of several such decimals the one
nearest to the number, of two equally near the even one. -/
namespace Rendezvous.Number

/-- The positive number `digits * 10 ^ exponent`. -/
structure Decimal where
  digits : Nat
  exponent : Int
  deriving DecidableEq, Repr

/-- The decimal digits of a number, most significant first. -/
def digitsOf (n : Nat) : List Char := Nat.toDigits 10 n

namespace Shortest

/-- `10 ^ max 0 exponent`. -/
def up (exponent : Int) : Nat := Nat.pow 10 exponent.toNat

/-- A magnitude with the ends of the interval that rounds to it, in units of `2 ^ -1076`.
The ends belong to the interval when the significand is even. -/
structure Interval where
  low : Nat
  middle : Nat
  high : Nat
  closed : Bool

def interval (x : Binary64) : Interval :=
  let unit := Nat.pow 2 x.exponent
  let below := if x.significand = Nat.pow 2 52 ∧ 0 < x.exponent then unit else 2 * unit
  ⟨4 * x.units - below, 4 * x.units, 4 * x.units + 2 * unit, x.significand % 2 = 0⟩

def scale : Nat := Nat.pow 2 1076

/-- Whether a decimal lies in the interval. -/
def Interval.holds (range : Interval) (d : Decimal) : Bool :=
  let point := d.digits * up d.exponent * scale
  let low := range.low * up (-d.exponent)
  let high := range.high * up (-d.exponent)
  if range.closed then low ≤ point && point ≤ high else low < point && point < high

/-- The exponent of the first digit: the `k` with `10 ^ k ≤ middle < 10 ^ (k + 1)`. -/
def magnitude (middle : Nat) : Int :=
  if scale ≤ middle then (digitsOf (middle / scale)).length - 1
  else -((digitsOf ((scale + middle - 1) / middle - 1)).length : Int)

/-- The decimal nearest to the middle on the grid of the given exponent, if that or its
neighbour lies in the interval. -/
def onGrid (range : Interval) (exponent : Int) : Option Decimal :=
  let num := range.middle * up (-exponent)
  let den := scale * up exponent
  let nearest := roundDiv num den
  let lower := num / den
  let other := if nearest = lower then lower + 1 else lower
  if range.holds ⟨nearest, exponent⟩ then some ⟨nearest, exponent⟩
  else if range.holds ⟨other, exponent⟩ then some ⟨other, exponent⟩
  else none

/-- Tries `count` digits, then more, `fuel` times; seventeen digits always suffice. With no
digit the one candidate is the next power of ten. -/
def search (range : Interval) (first : Int) (count : Nat) : (fuel : Nat) → Decimal
  | 0 => ⟨0, 0⟩
  | fuel + 1 =>
    (onGrid range (first - count + 1)).getD (search range first (count + 1) fuel)

/-- The shortest decimal of a number other than zero. -/
def ofBinary64 (x : Binary64) : Decimal :=
  let range := interval x
  search range (magnitude range.middle) 0 18

end Shortest
end Rendezvous.Number
