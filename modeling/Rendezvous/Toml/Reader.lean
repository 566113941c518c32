import Rendezvous.Toml.Scalar

/-! Reading TOML text. A document is read expression by expression, each a member or a
header on lines of its own; arrays and inline tables nest at most 79 deep, and keys have
fewer than 80 parts. -/
namespace Rendezvous.Toml

abbrev Reader (α : Type) := List Char → Option (α × List Char)

def isBlank (c : Char) : Bool := c = ' ' || c = '\t'

def skipBlanks (text : List Char) : List Char := text.dropWhile isBlank

/-- The text behind a line end. -/
def newline? : List Char → Option (List Char)
  | '\n' :: rest => some rest
  | '\r' :: '\n' :: rest => some rest
  | _ => none

/-- What a line may hold inside quotes or a comment: no control but the tab. -/
def isPlain (c : Char) : Bool := c = '\t' || (0x20 ≤ c.toNat && c.toNat ≤ 0x7E) || 0x80 ≤ c.toNat

/-- The text behind a comment, at its line end. -/
def skipComment (text : List Char) : List Char :=
  match text with
  | '#' :: rest => rest.dropWhile isPlain
  | _ => text

/-- The text behind the end of a line that holds nothing more but blanks and a comment. -/
def lineEnd (text : List Char) : Option (List Char) :=
  match skipComment (skipBlanks text) with
  | [] => some []
  | rest => newline? rest

/-! Strings -/

/-- A character given by its hexadecimal code point. -/
def codePoint? (count : Nat) (text : List Char) : Option (Char × List Char) :=
  let digits := text.take count
  let point := number 16 digits
  if digits.length = count ∧ digits.all isHexDigit = true ∧ point.isValidChar then
    some (Char.ofNat point, text.drop count)
  else none

/-- What follows a backslash. -/
def escape? : List Char → Option (Char × List Char)
  | 'b' :: rest => some ('\x08', rest)
  | 't' :: rest => some ('\t', rest)
  | 'n' :: rest => some ('\n', rest)
  | 'f' :: rest => some ('\x0c', rest)
  | 'r' :: rest => some ('\r', rest)
  | '"' :: rest => some ('"', rest)
  | '\\' :: rest => some ('\\', rest)
  | 'u' :: rest => codePoint? 4 rest
  | 'U' :: rest => codePoint? 8 rest
  | _ => none

/-- A string on one line up to its closing quote. -/
def basicString : (fuel : Nat) → Reader (List Char)
  | 0, _ => none
  | _ + 1, [] => none
  | fuel + 1, c :: rest =>
    if c = '"' then some ([], rest)
    else do
      let (c, rest) ← if c = '\\' then escape? rest
        else if isPlain c then some (c, rest) else none
      let (more, rest) ← basicString fuel rest
      return (c :: more, rest)

def literalString : Reader (List Char)
  | [] => none
  | c :: rest =>
    if c = '\'' then some ([], rest)
    else if isPlain c then do
      let (more, rest) ← literalString rest
      return (c :: more, rest)
    else none

/-- Passes over blanks and line ends. -/
def skipSpace : (fuel : Nat) → List Char → List Char
  | 0, text => text
  | fuel + 1, text =>
    match skipBlanks text with
    | '\n' :: rest => skipSpace fuel rest
    | '\r' :: '\n' :: rest => skipSpace fuel rest
    | rest => rest

/-- One piece of a string over several lines: a character, a line end, or in an escaping
string an escape or a backslash that swallows the line end and the space after it. -/
def linesPiece (escaping : Bool) : Reader (List Char)
  | [] => none
  | c :: rest =>
    if escaping = true ∧ c = '\\' then
      match newline? (skipBlanks rest) with
      | some rest => some ([], skipSpace (rest.length + 1) rest)
      | none => (escape? rest).map fun (c, rest) => ([c], rest)
    else if isPlain c then some ([c], rest)
    else (newline? (c :: rest)).map fun rest => (['\n'], rest)

/-- A string over several lines up to three quotes, before which two more may stand. -/
def linesString (quote : Char) (escaping : Bool) : (fuel : Nat) → Reader (List Char)
  | 0, _ => none
  | fuel + 1, text =>
    match text.takeWhile (· = quote) with
    | [] => do
      let (piece, rest) ← linesPiece escaping text
      let (more, rest) ← linesString quote escaping fuel rest
      return (piece ++ more, rest)
    | quotes =>
      if quotes.length < 3 then do
        let (more, rest) ← linesString quote escaping fuel (text.drop quotes.length)
        return (quotes ++ more, rest)
      else
        let extra := min (quotes.length - 3) 2
        some (quotes.take extra, text.drop (extra + 3))

/-- The text of a string over several lines starts behind its first line end. -/
def afterOpening (text : List Char) : List Char := (newline? text).getD text

def string? : Reader String := fun text => do
  let (chars, rest) ← match text with
    | '"' :: '"' :: '"' :: rest => linesString '"' true (rest.length + 1) (afterOpening rest)
    | '\'' :: '\'' :: '\'' :: rest => linesString '\'' false (rest.length + 1) (afterOpening rest)
    | '"' :: rest => basicString (rest.length + 1) rest
    | '\'' :: rest => literalString rest
    | _ => none
  return (String.ofList chars, rest)

/-! Keys -/

def isBare (c : Char) : Bool := c.isAlphanum || c = '_' || c = '-'

/-- One part of a key. -/
def keyPart? : Reader String
  | '"' :: rest => do
    let (chars, rest) ← basicString (rest.length + 1) rest
    return (String.ofList chars, rest)
  | '\'' :: rest => do
    let (chars, rest) ← literalString rest
    return (String.ofList chars, rest)
  | text =>
    match text.takeWhile isBare with
    | [] => none
    | chars => some (String.ofList chars, text.dropWhile isBare)

/-- The parts of a key, with the blanks around them. -/
def keyParts : (fuel : Nat) → Reader (List String)
  | 0, _ => none
  | fuel + 1, text => do
    let (part, rest) ← keyPart? (skipBlanks text)
    match skipBlanks rest with
    | '.' :: rest =>
      let (parts, rest) ← keyParts fuel rest
      return (part :: parts, rest)
    | rest => return ([part], rest)

/-- A key has fewer parts than this. -/
def partLimit : Nat := 80

/-- A key as the path to its table and its last part. -/
def key? : Reader (List String × String) := fun text => do
  let (parts, rest) ← keyParts (text.length + 1) text
  let last ← parts.getLast?
  if parts.length < partLimit then return ((parts.dropLast, last), rest) else none

/-! Values -/

/-- Passes over blanks, line ends and comments. -/
def skipLines : (fuel : Nat) → List Char → Option (List Char)
  | 0, _ => none
  | fuel + 1, text =>
    match skipBlanks text with
    | '#' :: rest => do skipLines fuel (← newline? (rest.dropWhile isPlain))
    | rest =>
      match newline? rest with
      | some rest => skipLines fuel rest
      | none => some rest

def skipAllLines (text : List Char) : Option (List Char) := skipLines (text.length + 1) text

/-- The items of an array after its bracket or a comma. -/
def items (value : Reader Value) : (fuel : Nat) → Reader (List Value)
  | 0, _ => none
  | fuel + 1, text => do
    match ← skipAllLines text with
    | ']' :: rest => return ([], rest)
    | text =>
      let (item, rest) ← value text
      match ← skipAllLines rest with
      | ',' :: rest =>
        let (more, rest) ← items value fuel rest
        return (item :: more, rest)
      | ']' :: rest => return ([item], rest)
      | _ => none

/-- A key, the equals sign and a value. -/
def member (value : Reader Value) : Reader ((List String × String) × Value) := fun text => do
  let (key, rest) ← key? text
  let (found, rest) ← value (skipBlanks (← expect? '=' rest))
  return ((key, found), rest)

/-- The members of an inline table after its brace or a comma. -/
def members (value : Reader Value) : (fuel : Nat) → Table → Reader Table
  | 0, _, _ => none
  | fuel + 1, table, text => do
    let (((path, key), found), rest) ← member value text
    let table ← table.put path key found
    match skipBlanks rest with
    | ',' :: rest => members value fuel table rest
    | '\x7d' :: rest => return (table, rest)
    | _ => none

def word? : Reader Value
  | 't' :: 'r' :: 'u' :: 'e' :: rest => some (.boolean true, rest)
  | 'f' :: 'a' :: 'l' :: 's' :: 'e' :: rest => some (.boolean false, rest)
  | _ => none

/-- A value that is neither an array nor an inline table. -/
def scalar? (text : List Char) : Option (Value × List Char) :=
  match string? text with
  | some (value, rest) => some (.string value, rest)
  | none => (word? text).or (numeric? text)

/-- A value with at most `depth` arrays and inline tables inside each other. -/
def value : (depth : Nat) → Reader Value
  | 0, text => scalar? text
  | depth + 1, text =>
    match text with
    | '[' :: rest => do
      let (found, rest) ← items (value depth) (rest.length + 1) rest
      return (.array found, rest)
    | '\x7b' :: rest =>
      match skipBlanks rest with
      | '\x7d' :: rest => some (.table .inline [], rest)
      | _ => do
        let (found, rest) ← members (value depth) (rest.length + 1) [] rest
        return (.table .inline found, rest)
    | text => scalar? text

def depthLimit : Nat := 79

/-! Documents -/

/-- A document being read, and the path of the table that was opened last. -/
structure Draft where
  root : Table := []
  opened : List String := []

/-- Reads one expression, which is not empty and starts with no blank. -/
def expression (draft : Draft) : List Char → Option (Draft × List Char)
  | '#' :: rest => do return (draft, ← lineEnd ('#' :: rest))
  | '[' :: '[' :: rest => do
    let ((path, key), rest) ← key? rest
    let rest ← lineEnd (← expect? ']' (← expect? ']' rest))
    return (⟨← draft.root.openRow path key, path ++ [key]⟩, rest)
  | '[' :: rest => do
    let ((path, key), rest) ← key? rest
    let rest ← lineEnd (← expect? ']' rest)
    return (⟨← draft.root.openTable path key, path ++ [key]⟩, rest)
  | text =>
    match newline? text with
    | some rest => some (draft, rest)
    | none => do
      let (((path, key), found), rest) ← member (value depthLimit) text
      return ({ draft with root := ← draft.root.putBelow draft.opened path key found },
        ← lineEnd rest)

def expressions : (fuel : Nat) → Draft → List Char → Option Table
  | 0, _, _ => none
  | fuel + 1, draft, text =>
    match skipBlanks text with
    | [] => some draft.root
    | rest => do
      let (draft, rest) ← expression draft rest
      expressions fuel draft rest

/-- The document that a whole text holds. A byte order mark at its start is no part of it. -/
def Table.ofText (text : String) : Option Table :=
  let chars := match text.toList with
    | '\ufeff' :: rest => rest
    | chars => chars
  expressions (chars.length + 1) {} chars

end Rendezvous.Toml
