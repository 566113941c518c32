import Rendezvous.Toml.Document
import Rendezvous.Number.Shortest
import Rendezvous.Token

/-! Numbers, dates and times in TOML text. Each reader takes the longest start of the text
that has its form, or nothing; what is left over is for the caller to refuse. -/
namespace Rendezvous.Toml

def isDigit (c : Char) : Bool := '0' ≤ c && c ≤ '9'

def isHexDigit (c : Char) : Bool := isDigit c || ('a' ≤ c && c ≤ 'f') || ('A' ≤ c && c ≤ 'F')

def isOctalDigit (c : Char) : Bool := '0' ≤ c && c ≤ '7'

def isBinaryDigit (c : Char) : Bool := c = '0' || c = '1'

/-- The value of a digit in any base up to sixteen. -/
def digitValue (c : Char) : Nat :=
  if isDigit c then c.toNat - 48 else if 'a' ≤ c then c.toNat - 87 else c.toNat - 55

def number (base : Nat) (digits : List Char) : Nat :=
  digits.foldl (fun n c => base * n + digitValue c) 0

/-- The digits at the start of a text; a single underscore may stand between two. -/
def digitRun (isDigit : Char → Bool) : List Char → List Char × List Char
  | c :: '_' :: d :: rest =>
    if isDigit c ∧ isDigit d then
      let (digits, rest) := digitRun isDigit (d :: rest)
      (c :: digits, rest)
    else if isDigit c then ([c], '_' :: d :: rest)
    else ([], c :: '_' :: d :: rest)
  | c :: rest =>
    if isDigit c then
      let (digits, rest) := digitRun isDigit rest
      (c :: digits, rest)
    else ([], c :: rest)
  | [] => ([], [])

/-! Numbers -/

def sign : List Char → Bool × List Char
  | '-' :: rest => (true, rest)
  | '+' :: rest => (false, rest)
  | text => (false, text)

/-- Decimal digits without a needless zero in front. -/
def wholeDigits : List Char → Option (List Char × List Char)
  | '0' :: rest => some (['0'], rest)
  | text =>
    match digitRun isDigit text with
    | ([], _) => none
    | found => some found

def fraction? : List Char → Option (List Char × List Char)
  | '.' :: rest =>
    match digitRun isDigit rest with
    | ([], _) => none
    | found => some found
  | _ => none

def exponent? : List Char → Option (Int × List Char)
  | c :: rest =>
    if c = 'e' ∨ c = 'E' then
      let (negative, rest) := sign rest
      match digitRun isDigit rest with
      | ([], _) => none
      | (digits, rest) =>
        let size : Int := number 10 digits
        some (if negative then -size else size, rest)
    else none
  | [] => none

/-- Whether `mantissa * 10 ^ exponent` is too large for a double. -/
def overflows (mantissa : Nat) (exponent : Int) : Bool :=
  if mantissa = 0 then false
  else
    let reach := (Nat.toDigits 10 mantissa).length + exponent
    if reach ≤ 308 then false
    else if 310 < reach then true
    else
      (Number.Binary64.ofQuotient (mantissa * Nat.pow 10 exponent.toNat)
        (Nat.pow 10 (-exponent).toNat)).isNone

/-- A float with a fraction, an exponent or both. Positive ones must not overflow. -/
def decimalFloat? (text : List Char) : Option (List Char) := do
  let (negative, rest) := sign text
  let (whole, rest) ← wholeDigits rest
  let (mantissa, exponent, rest) ← match fraction? rest with
    | some (part, rest) =>
      match exponent? rest with
      | some (exponent, rest) => some (whole ++ part, exponent - part.length, rest)
      | none => some (whole ++ part, -(part.length : Int), rest)
    | none => do
      let (exponent, rest) ← exponent? rest
      some (whole, exponent, rest)
  if negative = false ∧ overflows (number 10 mantissa) exponent = true then none else some rest

/-- An infinity or a number that is none. -/
def specialFloat? (text : List Char) : Option (List Char) :=
  match (sign text).2 with
  | 'i' :: 'n' :: 'f' :: rest => some rest
  | 'n' :: 'a' :: 'n' :: rest => some rest
  | _ => none

def integerFirst : Int := -Int.ofNat (Nat.pow 2 63)
def integerLast : Int := Int.ofNat (Nat.pow 2 63) - 1

/-- The integer, if it fits 64 bits. -/
def fitting (value : Int) (rest : List Char) : Option (Int × List Char) :=
  if integerFirst ≤ value ∧ value ≤ integerLast then some (value, rest) else none

def basedInteger? (base : Nat) (isDigit : Char → Bool) (text : List Char) :
    Option (Int × List Char) :=
  match digitRun isDigit text with
  | ([], _) => none
  | (digits, rest) => fitting (number base digits) rest

def integer? : List Char → Option (Int × List Char)
  | '0' :: 'x' :: rest => basedInteger? 16 isHexDigit rest
  | '0' :: 'o' :: rest => basedInteger? 8 isOctalDigit rest
  | '0' :: 'b' :: rest => basedInteger? 2 isBinaryDigit rest
  | text => do
    let (negative, rest) := sign text
    let (digits, rest) ← wholeDigits rest
    let size : Int := number 10 digits
    fitting (if negative then -size else size) rest

/-! Dates and times -/

/-- Exactly so many digits, as a number between two bounds. -/
def fixed? (count low high : Nat) (text : List Char) : Option (Nat × List Char) :=
  let digits := text.take count
  if digits.length = count ∧ digits.all isDigit = true ∧ low ≤ number 10 digits ∧
      number 10 digits ≤ high then
    some (number 10 digits, text.drop count)
  else none

def expect? (mark : Char) : List Char → Option (List Char)
  | c :: rest => if c = mark then some rest else none
  | [] => none

def isLeapYear (year : Nat) : Bool := year % 4 = 0 && (year % 100 ≠ 0 || year % 400 = 0)

def daysIn (year month : Nat) : Nat :=
  if month = 2 then if isLeapYear year then 29 else 28
  else if month = 4 ∨ month = 6 ∨ month = 9 ∨ month = 11 then 30
  else 31

/-- The number in decimal, filled up with zeros on the left. -/
def padded (width n : Nat) : String :=
  let digits := Nat.toDigits 10 n
  String.ofList (List.replicate (width - digits.length) '0' ++ digits)

def date? (text : List Char) : Option (String × List Char) := do
  let (year, rest) ← fixed? 4 0 9999 text
  let (month, rest) ← fixed? 2 1 12 (← expect? '-' rest)
  let (day, rest) ← fixed? 2 1 (daysIn year month) (← expect? '-' rest)
  return (padded 4 year ++ "-" ++ padded 2 month ++ "-" ++ padded 2 day, rest)

/-- Fractions of a second, of which nine digits count and closing zeros do not show. -/
def secondFraction : List Char → String × List Char
  | '.' :: rest =>
    match rest.takeWhile isDigit with
    | [] => ("", '.' :: rest)
    | digits =>
      let shown := ((digits.take 9).reverse.dropWhile (· = '0')).reverse
      (if shown = [] then "" else String.ofList ('.' :: shown), rest.dropWhile isDigit)
  | text => ("", text)

def time? (text : List Char) : Option (String × List Char) := do
  let (hour, rest) ← fixed? 2 0 23 text
  let (minute, rest) ← fixed? 2 0 59 (← expect? ':' rest)
  let (second, rest) ← fixed? 2 0 60 (← expect? ':' rest)
  let (fraction, rest) := secondFraction rest
  return (padded 2 hour ++ ":" ++ padded 2 minute ++ ":" ++ padded 2 second ++ fraction, rest)

def offset? (text : List Char) : Option (String × List Char) := do
  match text with
  | c :: rest =>
    if c = 'Z' ∨ c = 'z' then return ("Z", rest)
    else if c = '+' ∨ c = '-' then
      let (hour, rest) ← fixed? 2 0 23 rest
      let (minute, rest) ← fixed? 2 0 59 (← expect? ':' rest)
      let mark := if c = '-' ∧ hour + minute ≠ 0 then "-" else "+"
      return (mark ++ padded 2 hour ++ ":" ++ padded 2 minute, rest)
    else none
  | [] => none

/-- A date, a date with a time and perhaps an offset, or a time alone. -/
def datetime? (text : List Char) : Option (String × List Char) :=
  match date? text with
  | some (date, rest) =>
    let both := do
      let c ← rest.head?
      if c = 'T' ∨ c = 't' ∨ c = ' ' then
        let (time, rest) ← time? (rest.drop 1)
        let (offset, rest) := (offset? rest).getD ("", rest)
        return (date ++ "T" ++ time ++ offset, rest)
      else none
    some (both.getD (date, rest))
  | none => time? text

/-- A number, a date or a time. -/
def numeric? (text : List Char) : Option (Value × List Char) :=
  match datetime? text with
  | some (moment, rest) => some (.datetime moment, rest)
  | none =>
    match (decimalFloat? text).or (specialFloat? text) with
    | some rest => some (.float, rest)
    | none => (integer? text).map fun (value, rest) => (.integer value, rest)

end Rendezvous.Toml
