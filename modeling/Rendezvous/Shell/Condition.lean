import Rendezvous.Shell.State

/-! Conditions on texts, numbers and files, as `test` looks at them. -/
namespace Rendezvous.Shell.Condition

/-- What is asked of one text. -/
def unarySigns : List String := ["-b", "-c", "-d", "-e", "-f", "-g", "-h", "-k", "-L", "-n", "-O",
  "-G", "-p", "-r", "-s", "-S", "-t", "-u", "-w", "-x", "-z"]

def binarySigns : List String := ["=", "!=", "<", ">", "-eq", "-ne", "-gt", "-ge", "-lt", "-le",
  "-nt", "-ot", "-ef"]

/-- A whole number with a sign before and blanks around it. -/
def number? (text : Octets) : Option Int :=
  let blank (c : Char) : Bool := c = ' ' || c = '\t' || c = '\n'
  let plain := ((text.dropWhile blank).reverse.dropWhile blank).reverse
  let (negative, digits) := match plain with
    | '-' :: digits => (true, digits)
    | '+' :: digits => (false, digits)
    | digits => (false, digits)
  if digits = [] ∨ digits.any (!Char.isDigit ·) then none
  else
    let value : Nat := digits.foldl (fun value c => value * 10 + (c.toNat - 0x30)) 0
    some (if negative then -value else value)

/-- What conditions need to know of files. -/
structure View where
  find : Octets → Option Local.Entry
  isProgram : Octets → Bool

def unary (view : View) (sign : String) (text : Octets) : Bool :=
  match sign with
  | "-n" => !text.isEmpty
  | "-z" => text.isEmpty
  | "-d" => match view.find text with
    | some .directory => true
    | _ => false
  | "-f" => match view.find text with
    | some (.file _) => true
    | _ => false
  | "-s" => match view.find text with
    | some (.file content) => !content.isEmpty
    | some .directory => true
    | none => false
  | "-x" => match view.find text with
    | some .directory => true
    | some (.file _) => view.isProgram text
    | none => false
  | "-e" | "-r" | "-w" | "-O" | "-G" => (view.find text).isSome
  | _ => false

def binary (sign : String) (left right : Octets) : Except String Bool := do
  let number (text : Octets) : Except String Int :=
    match number? text with
    | some value => .ok value
    | none => .error ("Illegal number: " ++ shown text)
  match sign with
  | "=" => return left = right
  | "!=" => return left ≠ right
  | "<" => return left < right
  | ">" => return right < left
  | "-eq" => return (← number left) = (← number right)
  | "-ne" => return (← number left) ≠ (← number right)
  | "-gt" => return (← number left) > (← number right)
  | "-ge" => return (← number left) ≥ (← number right)
  | "-lt" => return (← number left) < (← number right)
  | "-le" => return (← number left) ≤ (← number right)
  | _ => return false

def isBinary (text : Octets) : Bool := binarySigns.contains (String.ofList text)

/-- Whether a word is the sign of a unary condition where it stands. Alone, or before a binary
sign, it is a plain text. -/
def unarySign? : List Octets → Option String
  | sign :: next :: rest =>
    let sign := String.ofList sign
    if ¬unarySigns.contains sign then none
    else if ¬rest.isEmpty ∧ isBinary next then none
    else some sign
  | _ => none

mutual

/-- Alternatives. Gives the truth and the words that are left. -/
def alternatives (view : View) : (fuel : Nat) → List Octets → Except String (Bool × List Octets)
  | 0, words => .ok (false, words)
  | fuel + 1, words => do
    let (first, rest) ← conjunction view fuel words
    match rest with
    | ['-', 'o'] :: rest =>
      let (second, rest) ← alternatives view fuel rest
      return (first || second, rest)
    | rest => return (first, rest)

def conjunction (view : View) : (fuel : Nat) → List Octets → Except String (Bool × List Octets)
  | 0, words => .ok (false, words)
  | fuel + 1, words => do
    let (first, rest) ← single view fuel words
    match rest with
    | ['-', 'a'] :: rest =>
      let (second, rest) ← conjunction view fuel rest
      return (first && second, rest)
    | rest => return (first, rest)

def single (view : View) : (fuel : Nat) → List Octets → Except String (Bool × List Octets)
  | 0, words => .ok (false, words)
  | _ + 1, [] => .ok (false, [])
  | fuel + 1, word :: rest => do
    if word = ['!'] then
      let (value, rest) ← single view fuel rest
      return (!value, rest)
    else if word = ['('] ∧ ¬rest.isEmpty then
      if rest.head? = some [')'] then return (false, rest.drop 1)
      let (value, rest) ← alternatives view fuel rest
      match rest with
      | [')'] :: rest => return (value, rest)
      | _ => throw "closing paren expected"
    else
      match unarySign? (word :: rest), rest with
      | some sign, text :: rest => return (unary view sign text, rest)
      | _, sign :: rest' =>
        if isBinary sign then
          match rest' with
          | right :: rest => return (← binary (String.ofList sign) word right, rest)
          | [] => throw (shown sign ++ ": argument expected")
        else return (!word.isEmpty, rest)
      | _, [] => return (!word.isEmpty, [])

end

/-- Whether the words are a true condition. -/
def holds (view : View) (words : List Octets) : Except String Bool :=
  let whole (words : List Octets) : Except String Bool := do
    let (value, rest) ← alternatives view (3 * words.length + 3) words
    if rest.isEmpty then return value
    else
      let last := (words.take (words.length - rest.length)).getLast?.getD []
      throw (shown last ++ ": unexpected operator")
  match words with
  | [] => .ok false
  | [left, sign, right] =>
    if isBinary sign then binary (String.ofList sign) left right
    else if left = ['('] ∧ right = [')'] then whole [sign]
    else whole words
  | words => whole words

end Rendezvous.Shell.Condition
