import Rendezvous.Json.Fault
import Rendezvous.Number.Shortest
import Rendezvous.Token

/-! Numbers in JSON text. A number without fraction and exponent that fits 64 bits is an
integer; every other number, and minus zero, is a double. Reading keeps the leading digits
that fit an unsigned 64-bit word and then scales by one rounded power of ten at a time. -/
namespace Rendezvous.Json

open Number (Binary64)

inductive Number where
  | integer (value : Int)
  | double (value : Binary64)
  deriving DecidableEq, Repr

namespace Number

/-! Writing -/

/-- Plain notation covers decimal exponents from -5 to 15. -/
def plainFirst : Int := -5
def plainLast : Int := 15

/-- Plain text with at least one digit on each side of the point; `point` digits stand
before it, or none and then zeros behind it. -/
def plain (digits : List Char) (point : Int) : List Char :=
  if point ≤ 0 then
    ['0', '.'] ++ List.replicate (-point).toNat '0' ++ digits
  else if point < digits.length then
    digits.take point.toNat ++ ['.'] ++ digits.drop point.toNat
  else digits ++ List.replicate (point.toNat - digits.length) '0' ++ ['.', '0']

/-- One digit before the point, and the exponent with its sign. -/
def scientific (digits : List Char) (exponent : Int) : List Char :=
  (match digits with
    | first :: second :: rest => first :: '.' :: second :: rest
    | few => few) ++
    ['e', if exponent < 0 then '-' else '+'] ++ Nat.toDigits 10 exponent.natAbs

/-- The shortest text that reads back. -/
def doubleText (x : Binary64) : List Char :=
  (if x.negative then ['-'] else []) ++
    if x.isZero then ['0', '.', '0']
    else
      let shortest := Rendezvous.Number.Shortest.ofBinary64 x
      let digits := Nat.toDigits 10 shortest.digits
      let exponent := digits.length + shortest.exponent - 1
      if plainFirst ≤ exponent ∧ exponent ≤ plainLast then plain digits (exponent + 1)
      else scientific digits exponent

def integerText (value : Int) : List Char :=
  (if value < 0 then ['-'] else []) ++ Nat.toDigits 10 value.natAbs

def text : Number → List Char
  | .integer value => integerText value
  | .double value => doubleText value

end Number

/-! Reading -/

def isDigit (c : Char) : Bool := '0' ≤ c && c ≤ '9'

def digitValue (c : Char) : Nat := c.toNat - 48

/-- A number as it is written. -/
structure Numeral where
  negative : Bool
  whole : List Char
  fraction : Option (List Char) := none
  /-- Whether the exponent is negative, and its digits. -/
  exponent : Option (Bool × List Char) := none

namespace Numeral

/-- What is wrong where a digit is missing. -/
def missingDigit : List Char → Fault
  | [] => .ended "the text ends inside a number"
  | _ => .malformed "a digit is missing"

/-- One digit or more. -/
def digits (text : List Char) : Except Fault (List Char × List Char) :=
  match text.takeWhile isDigit with
  | [] => .error (missingDigit text)
  | found => .ok (found, text.dropWhile isDigit)

/-- No digit may follow a leading zero. -/
def readWhole : List Char → Except Fault (List Char × List Char)
  | '0' :: c :: rest =>
    if isDigit c then .error (.malformed "a number starts with a needless zero")
    else .ok (['0'], c :: rest)
  | text => digits text

def readExponent (numeral : Numeral) : List Char → Except Fault (Numeral × List Char)
  | c :: rest =>
    if c = 'e' ∨ c = 'E' then do
      let (negative, rest) := match rest with
        | '-' :: rest => (true, rest)
        | '+' :: rest => (false, rest)
        | rest => (false, rest)
      let (exponent, rest) ← digits rest
      return ({ numeral with exponent := some (negative, exponent) }, rest)
    else .ok (numeral, c :: rest)
  | [] => .ok (numeral, [])

def readFraction (numeral : Numeral) : List Char → Except Fault (Numeral × List Char)
  | '.' :: rest => do
    let (fraction, rest) ← digits rest
    readExponent { numeral with fraction := some fraction } rest
  | text => readExponent numeral text

def read : List Char → Except Fault (Numeral × List Char)
  | '-' :: rest => do
    let (whole, rest) ← readWhole rest
    readFraction ⟨true, whole, none, none⟩ rest
  | text => do
    let (whole, rest) ← readWhole text
    readFraction ⟨false, whole, none, none⟩ rest

def wordLast : Nat := Nat.pow 2 64 - 1

/-- Appends digits to a number until one does not fit any more, and counts them. -/
def absorb (number : Nat) : List Char → Nat × Nat
  | [] => (number, 0)
  | c :: rest =>
    if wordLast < 10 * number + digitValue c then (number, 0)
    else
      let (number, count) := absorb (10 * number + digitValue c) rest
      (number, count + 1)

def outOfRange : Fault := .malformed "a number is out of range"

def powerOfTen (exponent : Nat) : Binary64 :=
  (Binary64.ofNat (Nat.pow 10 exponent)).getD (.zero false)

/-- Divides by `10 ^ exponent` in steps of at most `10 ^ 308`. -/
def scaleDown (x : Binary64) (exponent : Nat) : (fuel : Nat) → Binary64
  | 0 => x
  | fuel + 1 =>
    if exponent ≤ 308 then (x.div (powerOfTen exponent)).getD x
    else if x.isZero then x
    else scaleDown ((x.div (powerOfTen 308)).getD x) (exponent - 308) fuel

/-- `significand * 10 ^ exponent`, rounded at each step. -/
def scale (significand : Nat) (exponent : Int) : Except Fault Binary64 :=
  let x := (Binary64.ofNat significand).getD (.zero false)
  if exponent < 0 then .ok (scaleDown x exponent.natAbs (exponent.natAbs + 1))
  else if exponent ≤ 308 then
    match x.mul (powerOfTen exponent.toNat) with
    | some y => .ok y
    | none => .error outOfRange
  else if x.isZero then .ok x else .error outOfRange

def exponentLast : Nat := Nat.pow 2 31 - 1

/-- The number that is meant. -/
def value (numeral : Numeral) : Except Fault Number :=
  let (significand, kept) := absorb 0 numeral.whole
  let dropped := numeral.whole.length - kept
  let signed (x : Binary64) : Number := .double (if numeral.negative then x.negate else x)
  if dropped = 0 ∧ numeral.fraction = none ∧ numeral.exponent = none then
    if numeral.negative = false then .ok (.integer significand)
    else if significand = 0 ∨ Nat.pow 2 63 < significand then (scale significand 0).map signed
    else .ok (.integer (-significand))
  else
    let (significand, count) := absorb significand (numeral.fraction.getD [])
    let start : Int := dropped - count
    match numeral.exponent with
    | none => (scale significand start).map signed
    | some (negative, digits) =>
      let exponent := digits.foldl (fun n c => 10 * n + digitValue c) 0
      if exponentLast < exponent then
        if significand = 0 ∨ negative then .ok (signed (.zero false)) else .error outOfRange
      else (scale significand (if negative then start - exponent else start + exponent)).map signed

end Numeral

/-- Reads a number from the start of a text. -/
def Number.read (text : List Char) : Except Fault (Number × List Char) := do
  let (numeral, rest) ← Numeral.read text
  return (← numeral.value, rest)

end Rendezvous.Json
