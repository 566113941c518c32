import Rendezvous.Shell.Words

/-! Arithmetic expressions on 64-bit integers that wrap around, with variables and
assignments. -/
namespace Rendezvous.Shell

inductive Sum where
  | number (value : Int)
  | variable (name : String)
  | unary (sign : String) (operand : Sum)
  | binary (sign : String) (left right : Sum)
  | choice (condition yes no : Sum)
  /-- Sets a variable; a sign says what its old value has to do with the new one. -/
  | assign (name : String) (sign : String) (value : Sum)
  deriving Repr

inductive SumFault where
  | expecting (what : String)
  | divisionByZero
  | illegalNumber (text : Octets)
  deriving Repr

namespace Sum

/-! Reading -/

def isSpace (c : Char) : Bool := c = ' ' || c = '\t' || c = '\n'

def signs : List String := ["<<=", ">>=", "<<", ">>", "<=", ">=", "==", "!=", "&&", "||", "+=",
  "-=", "*=", "/=", "%=", "&=", "^=", "|=", "<", ">", "=", "&", "|", "^", "+", "-", "*", "/",
  "%", "!", "~", "?", ":", "(", ")"]

/-- The sign that comes next. -/
def nextSign (text : List Char) : Option (String × List Char) :=
  sign? signs (text.dropWhile isSpace)

/-- Binary operators from the loosest to the tightest. -/
def levels : List (List String) := [["||"], ["&&"], ["|"], ["^"], ["&"], ["==", "!="],
  ["<", "<=", ">", ">="], ["<<", ">>"], ["+", "-"], ["*", "/", "%"]]

def assignmentSigns : List String := ["=", "+=", "-=", "*=", "/=", "%=", "<<=", ">>=", "&=", "^=",
  "|="]

def digitValue (c : Char) : Nat :=
  if c.isDigit then c.toNat - 0x30 else (c.toNat - 0x41) % 0x20 + 10

def inBase (base : Nat) (digits : List Char) : Nat :=
  digits.foldl (fun value c => value * base + digitValue c) 0

/-- The number that a text starts with: hexadecimal after `0x`, octal after `0`. -/
def leadingNumber (text : List Char) : Nat × List Char :=
  let isHex (c : Char) : Bool := c.isDigit || ('a' ≤ c && c ≤ 'f') || ('A' ≤ c && c ≤ 'F')
  let isOctal (c : Char) : Bool := '0' ≤ c && c ≤ '7'
  match text with
  | '0' :: x :: rest =>
    if (x = 'x' ∨ x = 'X') ∧ (rest.takeWhile isHex) ≠ [] then
      (inBase 16 (rest.takeWhile isHex), rest.dropWhile isHex)
    else (inBase 8 (text.takeWhile isOctal), text.dropWhile isOctal)
  | _ => (inBase 10 (text.takeWhile Char.isDigit), text.dropWhile Char.isDigit)

/-- The largest number that is kept as it is written. -/
def largest : Nat := Nat.pow 2 63 - 1

abbrev Reader := List Char → Except SumFault (Sum × List Char)

/-- Operators of one level, applied from the left. -/
def chain (operand : Reader) (level : List String) : (fuel : Nat) → Sum → Reader
  | 0, left, text => .ok (left, text)
  | fuel + 1, left, text =>
    match nextSign text with
    | some (sign, rest) =>
      if level.contains sign then do
        let (right, rest) ← operand rest
        chain operand level fuel (.binary sign left right) rest
      else .ok (left, text)
    | none => .ok (left, text)

/-- Operators of several levels, the loosest first. -/
def layered (operand : Reader) : List (List String) → Reader
  | [] => operand
  | level :: tighter => fun text => do
    let (left, rest) ← layered operand tighter text
    chain (layered operand tighter) level (rest.length + 1) left rest

/-- A number, a variable, a sign before an operand, or an expression in parentheses. -/
def operand (expression : Reader) : (fuel : Nat) → Reader
  | 0, _ => .error (.expecting "primary")
  | fuel + 1, text =>
    match text.dropWhile isSpace with
    | [] => .error (.expecting "primary")
    | c :: rest =>
      if c.isDigit then
        let (value, rest) := leadingNumber (c :: rest)
        .ok (.number (min value largest), rest)
      else if isNameStart c then
        let name := c :: rest.takeWhile isNamePart
        .ok (.variable (String.ofList name), rest.dropWhile isNamePart)
      else if c = '+' ∨ c = '-' ∨ c = '!' ∨ c = '~' then do
        let (inner, rest) ← operand expression fuel rest
        return (.unary (String.singleton c) inner, rest)
      else if c = '(' then do
        let (inner, rest) ← expression rest
        match nextSign rest with
        | some (")", rest) => return (inner, rest)
        | _ => throw (.expecting "')'")
      else .error (.expecting "primary")

/-- An assignment, or a choice between two expressions, or a plain one. -/
def expression : (fuel : Nat) → Reader
  | 0, _ => .error (.expecting "primary")
  | fuel + 1, text => do
    let text := text.dropWhile isSpace
    let plain : Except SumFault (Sum × List Char) := do
      let (condition, rest) ← layered (operand (expression fuel) (text.length + 1)) levels text
      match nextSign rest with
      | some ("?", rest) =>
        let (yes, rest) ← expression fuel rest
        match nextSign rest with
        | some (":", rest) =>
          let (no, rest) ← expression fuel rest
          return (.choice condition yes no, rest)
        | _ => throw (.expecting "':'")
      | _ => return (condition, rest)
    if (text.head?.map isNameStart).getD false then
      match nextSign (text.dropWhile isNamePart) with
      | some (sign, rest) =>
        if assignmentSigns.contains sign then
          let (value, rest) ← expression fuel rest
          return (.assign (String.ofList (text.takeWhile isNamePart)) sign value, rest)
        else plain
      | none => plain
    else plain

/-- Reads a whole expression. -/
def ofText (text : Octets) : Except SumFault Sum := do
  let (sum, rest) ← expression (text.length + 1) text
  if rest.all isSpace then return sum else throw (.expecting "EOF")

/-! Evaluation -/

def wrap (value : Int) : Int := Int.bmod value (Nat.pow 2 64)

def truth (condition : Prop) [Decidable condition] : Int := if condition then 1 else 0

/-- The bits of an integer. -/
def bits (value : Int) : Nat := (value % Nat.pow 2 64).toNat

def apply (sign : String) (left right : Int) : Except SumFault Int :=
  match sign with
  | "*" => .ok (wrap (left * right))
  | "/" => if right = 0 then .error .divisionByZero else .ok (wrap (left.tdiv right))
  | "%" => if right = 0 then .error .divisionByZero else .ok (wrap (left.tmod right))
  | "+" => .ok (wrap (left + right))
  | "-" => .ok (wrap (left - right))
  | "<<" => .ok (wrap (left * Nat.pow 2 (bits right % 64)))
  | ">>" => .ok (left / Nat.pow 2 (bits right % 64))
  | "<" => .ok (truth (left < right))
  | "<=" => .ok (truth (left ≤ right))
  | ">" => .ok (truth (left > right))
  | ">=" => .ok (truth (left ≥ right))
  | "==" => .ok (truth (left = right))
  | "!=" => .ok (truth (left ≠ right))
  | "&" => .ok (wrap (bits left &&& bits right : Nat))
  | "^" => .ok (wrap (bits left ^^^ bits right : Nat))
  | "|" => .ok (wrap (bits left ||| bits right : Nat))
  | "&&" => .ok (truth (left ≠ 0 ∧ right ≠ 0))
  | _ => .ok (truth (left ≠ 0 ∨ right ≠ 0))

/-- The value of a variable as a number: blanks, a sign and digits. A missing or empty value
is zero. -/
def numberOf (text : Octets) : Except SumFault Int :=
  let plain := text.dropWhile isSpace
  let (negative, digits) := match plain with
    | '-' :: digits => (true, digits)
    | '+' :: digits => (false, digits)
    | digits => (false, digits)
  let (value, rest) := leadingNumber digits
  if plain = [] then .ok 0
  else if digits.head?.all (!Char.isDigit ·) ∨ !rest.all isSpace then .error (.illegalNumber text)
  else .ok (if negative then -(min value (largest + 1) : Nat) else (min value largest : Nat))

/-- The value, given those of the variables; assignments made are added to the given ones.
What a logical operator or a choice leaves out is not evaluated. -/
def eval (find : String → Octets) (set : List (String × Int)) :
    Sum → Except SumFault (Int × List (String × Int))
  | .number value => .ok (value, set)
  | .variable name => do
    match set.lookup name with
    | some value => return (value, set)
    | none => return (← numberOf (find name), set)
  | .unary sign operand => do
    let (value, set) ← operand.eval find set
    let value := match sign with
      | "-" => wrap (-value)
      | "!" => truth (value = 0)
      | "~" => -value - 1
      | _ => value
    return (value, set)
  | .binary sign left right => do
    let (a, set) ← left.eval find set
    if sign = "&&" ∧ a = 0 then return (0, set)
    else if sign = "||" ∧ a ≠ 0 then return (1, set)
    else
      let (b, set) ← right.eval find set
      return (← apply sign a b, set)
  | .choice condition yes no => do
    let (a, set) ← condition.eval find set
    if a ≠ 0 then yes.eval find set else no.eval find set
  | .assign name sign value => do
    let (b, set) ← value.eval find set
    if sign = "=" then return (b, (name, b) :: set)
    else
      let a ← match set.lookup name with
        | some value => pure value
        | none => numberOf (find name)
      let c ← apply (String.ofList sign.toList.dropLast) a b
      return (c, (name, c) :: set)

end Sum
end Rendezvous.Shell
