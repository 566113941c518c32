import Rendezvous.Json.Value

/-! Reading JSON text from left to right; the first problem met decides. At most 127 arrays
and objects may stand inside each other. Skipping a value that nobody asked for checks its
shape only: neither the nesting, nor the size of numbers, nor the pairing of surrogates. -/
namespace Rendezvous.Json

abbrev Reader (α : Type) := List Char → Except Fault (α × List Char)

def isBlank (c : Char) : Bool := c = ' ' || c = '\t' || c = '\n' || c = '\r'

def skipBlanks (text : List Char) : List Char := text.dropWhile isBlank

/-! Strings -/

def endInString : Fault := .ended "the text ends inside a string"

def hexValue? (c : Char) : Option Nat :=
  if isDigit c then some (digitValue c)
  else if 'a' ≤ c ∧ c ≤ 'f' then some (c.toNat - 87)
  else if 'A' ≤ c ∧ c ≤ 'F' then some (c.toNat - 55)
  else none

/-- Four hexadecimal digits. Fewer than four bytes before the end are an early end. -/
def readUnit (text : List Char) : Except Fault (Nat × List Char) :=
  if (text.take 4).foldl (fun size c => size + c.utf8Size) 0 < 4 then .error endInString
  else match text with
    | a :: b :: c :: d :: rest =>
      match hexValue? a, hexValue? b, hexValue? c, hexValue? d with
      | some a, some b, some c, some d => .ok (4096 * a + 256 * b + 16 * c + d, rest)
      | _, _, _, _ => .error (.malformed "an escape has no four hexadecimal digits")
    | _ => .error (.malformed "an escape has no four hexadecimal digits")

def loneSurrogate : Fault := .malformed "a surrogate stands alone"

/-- The character of a unit that has been read; a leading surrogate asks for its partner. -/
def readCharacter (unit : Nat) (text : List Char) : Except Fault (Char × List Char) :=
  if 0xDC00 ≤ unit ∧ unit ≤ 0xDFFF then .error loneSurrogate
  else if unit < 0xD800 ∨ 0xDBFF < unit then .ok (Char.ofNat unit, text)
  else match text with
    | [] => .error endInString
    | ['\\'] => .error endInString
    | '\\' :: 'u' :: rest => do
      let (partner, rest) ← readUnit rest
      if 0xDC00 ≤ partner ∧ partner ≤ 0xDFFF then
        return (Char.ofNat (0x10000 + 0x400 * (unit - 0xD800) + (partner - 0xDC00)), rest)
      else .error loneSurrogate
    | _ => .error loneSurrogate

/-- The character that a backslash and this one stand for. -/
def shortEscape? (c : Char) : Option Char :=
  if c = '"' then some '"'
  else if c = '\\' then some '\\'
  else if c = '/' then some '/'
  else if c = 'b' then some '\x08'
  else if c = 'f' then some '\x0c'
  else if c = 'n' then some '\n'
  else if c = 'r' then some '\r'
  else if c = 't' then some '\t'
  else none

/-- What follows a backslash. -/
def readEscape : Reader Char
  | [] => .error endInString
  | c :: rest =>
    match shortEscape? c with
    | some meant => .ok (meant, rest)
    | none =>
      if c = 'u' then do
        let (unit, rest) ← readUnit rest
        readCharacter unit rest
      else .error (.malformed "an escape is unknown")

def controlInString : Fault := .malformed "a control character stands in a string"

/-- The characters of a string up to its closing quote. -/
def readString : (fuel : Nat) → Reader (List Char)
  | 0, _ => .error endInString
  | _ + 1, [] => .error endInString
  | fuel + 1, c :: rest =>
    if c = '"' then .ok ([], rest)
    else if c = '\\' then do
      let (c, rest) ← readEscape rest
      let (more, rest) ← readString fuel rest
      return (c :: more, rest)
    else if c.toNat < 0x20 then .error controlInString
    else do
      let (more, rest) ← readString fuel rest
      return (c :: more, rest)

/-- A string whose opening quote has been read. -/
def string (text : List Char) : Except Fault (String × List Char) := do
  let (chars, rest) ← readString (text.length + 1) text
  return (String.ofList chars, rest)

def skipEscape : List Char → Except Fault (List Char)
  | [] => .error endInString
  | c :: rest =>
    if (shortEscape? c).isSome then .ok rest
    else if c = 'u' then (readUnit rest).map (·.2)
    else .error (.malformed "an escape is unknown")

/-- Passes over a string whose opening quote has been read. -/
def skipString : (fuel : Nat) → List Char → Except Fault (List Char)
  | 0, _ => .error endInString
  | _ + 1, [] => .error endInString
  | fuel + 1, c :: rest =>
    if c = '"' then .ok rest
    else if c = '\\' then do
      let rest ← skipEscape rest
      skipString fuel rest
    else if c.toNat < 0x20 then .error controlInString
    else skipString fuel rest

/-! Values without parts -/

def endInWord : Fault := .ended "the text ends inside a word"
def unknownWord : Fault := .malformed "a word is unknown"
def noValue : Fault := .malformed "a value is missing"
def endBeforeValue : Fault := .ended "the text ends before a value"

/-- Passes over the letters of a word. -/
def word : List Char → List Char → Except Fault (List Char)
  | [], text => .ok text
  | _ :: _, [] => .error endInWord
  | letter :: letters, c :: rest =>
    if c = letter then word letters rest else .error unknownWord

/-- A value that is neither array nor object. -/
def scalar : Reader Value
  | [] => .error endBeforeValue
  | c :: rest =>
    if c = 'n' then return (.null, ← word ['u', 'l', 'l'] rest)
    else if c = 't' then return (.boolean true, ← word ['r', 'u', 'e'] rest)
    else if c = 'f' then return (.boolean false, ← word ['a', 'l', 's', 'e'] rest)
    else if c = '-' ∨ isDigit c then do
      let (number, rest) ← Number.read (c :: rest)
      return (.number number, rest)
    else if c = '"' then do
      let (value, rest) ← string rest
      return (.string value, rest)
    else .error noValue

/-- Passes over such a value; an incomplete number is malformed even at the end. -/
def skipScalar : List Char → Except Fault (List Char)
  | [] => .error endBeforeValue
  | c :: rest =>
    if c = 'n' then word ['u', 'l', 'l'] rest
    else if c = 't' then word ['r', 'u', 'e'] rest
    else if c = 'f' then word ['a', 'l', 's', 'e'] rest
    else if c = '-' ∨ isDigit c then
      match Numeral.read (c :: rest) with
      | .ok (_, rest) => .ok rest
      | .error fault => .error (.malformed fault.detail)
    else if c = '"' then skipString (rest.length + 1) rest
    else .error noValue

/-! Arrays and objects. The step functions find the start of the next part, or nothing
before the closing bracket. -/

def nextItem (first : Bool) (text : List Char) : Except Fault (Option (List Char)) :=
  match skipBlanks text with
  | [] => .error (.ended "the text ends inside an array")
  | c :: rest =>
    if c = ']' then .ok none
    else if first then .ok (some (c :: rest))
    else if c = ',' then
      match skipBlanks rest with
      | [] => .error endBeforeValue
      | c :: rest =>
        if c = ']' then .error (.malformed "a comma closes an array")
        else .ok (some (c :: rest))
    else .error (.malformed "a comma is missing in an array")

def keyStart : List Char → Except Fault (Option (List Char))
  | [] => .error endBeforeValue
  | c :: rest => if c = '"' then .ok (some rest) else .error (.malformed "a key is no string")

/-- The text after the opening quote of the next key. -/
def nextKey (first : Bool) (text : List Char) : Except Fault (Option (List Char)) :=
  match skipBlanks text with
  | [] => .error (.ended "the text ends inside an object")
  | c :: rest =>
    if c = '\x7d' then .ok none
    else if first then keyStart (c :: rest)
    else if c = ',' then keyStart (skipBlanks rest)
    else .error (.malformed "a comma is missing in an object")

def colon (text : List Char) : Except Fault (List Char) :=
  match skipBlanks text with
  | [] => .error (.ended "the text ends inside an object")
  | c :: rest => if c = ':' then .ok rest else .error (.malformed "a colon is missing")

/-- The text behind the closing bracket that `nextItem` or `nextKey` has found. -/
def close (text : List Char) : List Char := (skipBlanks text).drop 1

/-- Reads the items of an array after its bracket, each into what was gathered before. -/
def items (item : α → Reader α) : (fuel : Nat) → (first : Bool) → α → Reader α
  | 0, _, _, _ => .error endBeforeValue
  | fuel + 1, first, gathered, text => do
    match ← nextItem first text with
    | none => return (gathered, close text)
    | some text =>
      let (gathered, rest) ← item gathered text
      items item fuel false gathered rest

/-- Reads the members of an object after its brace. A member is given its key and the text
before the colon. -/
def members (member : String → α → Reader α) : (fuel : Nat) → (first : Bool) → α → Reader α
  | 0, _, _, _ => .error endBeforeValue
  | fuel + 1, first, gathered, text => do
    match ← nextKey first text with
    | none => return (gathered, close text)
    | some text =>
      let (key, rest) ← string text
      let (gathered, rest) ← member key gathered rest
      members member fuel false gathered rest

def tooDeep : Fault := .malformed "arrays and objects are nested too deeply"

/-- Reads a value, opening at most `depth` arrays and objects inside each other. -/
def value : (depth : Nat) → Reader Value
  | 0, text =>
    match skipBlanks text with
    | [] => .error endBeforeValue
    | c :: rest => if c = '[' ∨ c = '\x7b' then .error tooDeep else scalar (c :: rest)
  | depth + 1, text =>
    match skipBlanks text with
    | [] => .error endBeforeValue
    | c :: rest =>
      if c = '[' then do
        let (found, rest) ← items (fun found text => do
          let (item, rest) ← value depth text
          return (item :: found, rest)) (rest.length + 1) true [] rest
        return (.array found.reverse, rest)
      else if c = '\x7b' then do
        let (found, rest) ← members (fun key found text => do
          let (item, rest) ← value depth (← colon text)
          return (insertSorted key item found, rest)) (rest.length + 1) true [] rest
        return (.object found, rest)
      else scalar (c :: rest)

/-- Passes over the members of an object after its brace, given how to pass over a value. -/
def skipMembers (skip : List Char → Except Fault (List Char)) :
    (fuel : Nat) → (first : Bool) → List Char → Except Fault (List Char)
  | 0, _, _ => .error endBeforeValue
  | fuel + 1, first, text => do
    match ← nextKey first text with
    | none => return close text
    | some text =>
      let rest ← skip (← colon (← skipString (text.length + 1) text))
      skipMembers skip fuel false rest

/-- Passes over a value of any depth below `fuel`. -/
def skip : (fuel : Nat) → List Char → Except Fault (List Char)
  | 0, _ => .error endBeforeValue
  | fuel + 1, text =>
    match skipBlanks text with
    | [] => .error endBeforeValue
    | c :: rest =>
      if c = '[' then do
        let (_, rest) ← items (fun _ text => do return ((), ← skip fuel text))
          (rest.length + 1) true () rest
        return rest
      else if c = '\x7b' then skipMembers (skip fuel) (rest.length + 1) true rest
      else skipScalar (c :: rest)

/-- Arrays and objects that may stand inside each other. -/
def depthLimit : Nat := 127

/-- After the value only blanks may follow. -/
def finish (found : α × List Char) : Except Fault α :=
  match skipBlanks found.2 with
  | [] => .ok found.1
  | _ => .error (.malformed "something follows the value")

/-- The value that a whole text holds. -/
def Value.ofText (text : String) : Except Fault Value := do finish (← value depthLimit text.toList)

end Rendezvous.Json
