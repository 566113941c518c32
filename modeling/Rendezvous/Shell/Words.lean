import Rendezvous.Shell.Script

/-! How a script is cut into words and signs: blanks part words, quotes and backslashes take
their meaning from characters, and dollar signs and backquotes mark what is put in later. -/
namespace Rendezvous.Shell

def isBlank (c : Char) : Bool := c = ' ' || c = '\t'

/-- Whether a character ends a word that it is not quoted in. -/
def endsWord (c : Char) : Bool :=
  isBlank c || c = '\n' || c = ';' || c = '&' || c = '|' || c = '<' || c = '>' || c = '(' || c = ')'

def isNameStart (c : Char) : Bool := c.isAlpha || c = '_'

def isNamePart (c : Char) : Bool := c.isAlphanum || c = '_'

def isName (chars : Octets) : Bool :=
  match chars with
  | [] => false
  | first :: rest => isNameStart first && rest.all isNamePart

/-- Names of one sign: what the shell knows about its parameters and processes. -/
def isSpecialName (c : Char) : Bool :=
  c = '@' || c = '*' || c = '#' || c = '?' || c = '-' || c = '$' || c = '!'

/-- Where the parts of a word stand. -/
inductive Place where
  | bare
  | quotes
  /-- In the braces of a parameter, which may stand in quotes. -/
  | braces (quoted : Bool)
  /-- In an arithmetic expression, inside so many parentheses of its own. -/
  | sum (depth : Nat)
  | document

namespace Place

def quoted : Place → Bool
  | .bare => false
  | .braces quoted => quoted
  | _ => true

/-- What is wrong when the text ends there. -/
def fault? : Place → Option SyntaxFault
  | .bare => none
  | .quotes => some .openQuote
  | .braces _ => some .openBrace
  | .sum _ => some .openSum
  | .document => none

/-- Whether a backslash takes its meaning from the next character. -/
def escapes (place : Place) (c : Char) : Bool :=
  match place with
  | .bare => true
  | .braces false => true
  | .document => c = '$' || c = '\x60' || c = '\\'
  | .braces true => c = '$' || c = '\x60' || c = '"' || c = '\\' || c = '\x7d'
  | _ => c = '$' || c = '\x60' || c = '"' || c = '\\'

end Place

/-- Adds a character to the last piece, or a piece of its own. -/
def addChar (c : Char) (quoted : Bool) : List Piece → List Piece
  | .text chars was :: pieces =>
    if was = quoted then .text (chars ++ [c]) quoted :: pieces
    else .text [c] quoted :: .text chars was :: pieces
  | pieces => .text [c] quoted :: pieces

/-- The script between backquotes, with one level of backslashes taken off. -/
def backquoted (inQuotes : Bool) : Reading Octets
  | [] => refuse .openBackquote []
  | '\x60' :: rest => .ok ([], rest)
  | '\\' :: c :: rest => do
    let (chars, rest) ← backquoted inQuotes rest
    if c = '$' ∨ c = '\x60' ∨ c = '\\' ∨ (inQuotes ∧ c = '"') then return (c :: chars, rest)
    else return ('\\' :: c :: chars, rest)
  | c :: rest => do
    let (chars, rest) ← backquoted inQuotes rest
    return (c :: chars, rest)

/-- The name after a dollar sign, and what follows; no name if there is none. -/
def parameterName (text : List Char) : Octets × List Char :=
  match text with
  | [] => ([], [])
  | c :: rest =>
    if isNameStart c then (text.takeWhile isNamePart, text.dropWhile isNamePart)
    else if c.isDigit ∨ isSpecialName c then ([c], rest)
    else ([], text)

/-- The name in braces: numbers may have many digits there. -/
def bracedName (text : List Char) : Octets × List Char :=
  match text with
  | c :: _ =>
    if c.isDigit then (text.takeWhile Char.isDigit, text.dropWhile Char.isDigit)
    else parameterName text
  | [] => ([], [])

/-- A parameter in braces, behind the opening one. -/
def braced (quoted : Bool) (word : Reading Word) : Reading Piece := fun text =>
  let piece (name : Octets) (use : Use) : Piece := .parameter (String.ofList name) use quoted
  let lengthOf := match text with
    | '#' :: rest =>
      match bracedName rest with
      | (name, '\x7d' :: rest) => if name = [] then none else some (name, rest)
      | _ => none
    | _ => none
  match lengthOf with
  | some (name, rest) => .ok (piece name .length, rest)
  | none =>
    let (name, rest) := bracedName text
    let withWord (use : Word → Use) (rest : List Char) : Except Refusal (Piece × List Char) := do
      let (inside, rest) ← word rest
      return (piece name (if name = [] then .malformed else use inside), rest)
    match rest with
    | '\x7d' :: rest => .ok (piece name (if name = [] then .malformed else .value), rest)
    | '#' :: '#' :: rest => withWord (.trimmed false true) rest
    | '#' :: rest => withWord (.trimmed false false) rest
    | '%' :: '%' :: rest => withWord (.trimmed true true) rest
    | '%' :: rest => withWord (.trimmed true false) rest
    | ':' :: '\x7d' :: rest => refuse .openBrace rest
    | ':' :: mark :: rest =>
      if mark = '-' ∨ mark = '=' ∨ mark = '?' ∨ mark = '+' then withWord (.checked mark true) rest
      else withWord (fun _ => .malformed) rest
    | mark :: rest =>
      if mark = '-' ∨ mark = '=' ∨ mark = '?' ∨ mark = '+' then withWord (.checked mark false) rest
      else withWord (fun _ => .malformed) rest
    | [] => refuse .openBrace []

/-- How many lines a list of commands may take, and whether it may be empty. -/
inductive Extent where
  | line
  | filled
  | any
  deriving DecidableEq

/-- A reader for lists of commands. -/
abbrev Lists := Extent → Reading Command

/-- How complaints call the keyword or sign that a text starts with. -/
def blocking (text : List Char) : String :=
  let found := match text with
    | [] => []
    | ';' :: ';' :: _ => [';', ';']
    | c :: _ => if c.isAlpha then text.takeWhile Char.isAlpha else [c]
  if found = [] then "end of file" else "\"" ++ String.ofList found ++ "\""

/-- What stands behind a dollar sign. -/
def afterDollar (lists : Lists) (quoted : Bool) (inside : Place → Reading Word) : Reading Piece
  | '(' :: '(' :: rest => do
    let (expression, rest) ← inside (.sum 0) rest
    return (.arithmetic expression quoted, rest)
  | '(' :: rest => do
    let (body, rest) ← lists .any rest
    match rest with
    | ')' :: rest => return (.output body quoted, rest)
    | rest => refuse (.unexpected (blocking rest) (some "\")\"")) rest
  | '\x7b' :: rest => braced quoted (inside (.braces quoted)) rest
  | text =>
    match parameterName text with
    | ([], rest) => .ok (.text ['$'] quoted, rest)
    | (name, rest) => .ok (.parameter (String.ofList name) .value quoted, rest)

/-- The pieces of a word from some place on, given those before in reverse. -/
def pieces (lists : Lists) : (fuel : Nat) → Place → List Piece → Reading Word
  | 0, place, _, text => refuse (place.fault?.getD .openQuote) text
  | fuel + 1, place, done, text =>
    let inside (place : Place) : Reading Word := pieces lists fuel place []
    let next (piece : Piece) (rest : List Char) := pieces lists fuel place (piece :: done) rest
    let add (c : Char) (rest : List Char) :=
      pieces lists fuel place (addChar c place.quoted done) rest
    let take (c : Char) (rest : List Char) : Except Refusal (Word × List Char) :=
      match c, place with
      | '\x7d', .braces _ => .ok (done.reverse, rest)
      | '\'', .bare | '\'', .braces false =>
        match rest.dropWhile (· ≠ '\'') with
        | _ :: after => next (.text (rest.takeWhile (· ≠ '\'')) true) after
        | [] => refuse .openQuote []
      | '"', .quotes => .ok (done.reverse, rest)
      | '"', .sum _ | '"', .document => add c rest
      | '"', _ => do
        let (quoted, rest) ← inside .quotes rest
        let quoted := if quoted.isEmpty then [.text [] true] else quoted
        pieces lists fuel place (quoted.reverse ++ done) rest
      | '(', .sum depth => pieces lists fuel (.sum (depth + 1)) (addChar c true done) rest
      | ')', .sum (depth + 1) => pieces lists fuel (.sum depth) (addChar c true done) rest
      | ')', .sum 0 =>
        match rest with
        | ')' :: rest => .ok (done.reverse, rest)
        | _ => refuse .openSum rest
      | '$', _ => do
        let (piece, rest) ← afterDollar lists place.quoted inside rest
        next piece rest
      | '\x60', _ => do
        let (script, rest) ← backquoted place.quoted rest
        match lists .any script with
        | .ok (body, []) => next (.output body place.quoted) rest
        | .ok _ => refuse (.unexpected "\")\"" none) rest
        | .error refusal => .error refusal
      | c, .bare => if endsWord c then .ok (done.reverse, c :: rest) else add c rest
      | c, _ => add c rest
    match text with
    | [] =>
      match place.fault? with
      | none => .ok (done.reverse, [])
      | some fault => refuse fault []
    | '\\' :: '\n' :: rest => pieces lists fuel place done rest
    | '\\' :: c :: rest =>
      if place.escapes c then pieces lists fuel place (addChar c true done) rest
      else add '\\' (c :: rest)
    | c :: rest => take c rest

/-- Reads a word. -/
def word (lists : Lists) : Reading Word := fun text =>
  pieces lists (text.length + 1) .bare [] text

/-- Drops blanks, joined lines and a comment. -/
def skipBlanks : List Char → List Char
  | '\\' :: '\n' :: rest => skipBlanks rest
  | c :: rest =>
    if isBlank c then skipBlanks rest
    else if c = '#' then rest.dropWhile (· ≠ '\n')
    else c :: rest
  | [] => []

/-- Drops empty lines as well. -/
def skipLines : (fuel : Nat) → List Char → List Char
  | 0, text => text
  | fuel + 1, text =>
    match skipBlanks text with
    | '\n' :: rest => skipLines fuel rest
    | rest => rest

inductive Token where
  | ended
  | newline
  | word (word : Word)
  | redirection (descriptor : Option Nat) (sign : String)
  | sign (text : String)

/-- Words that mean something where a command starts. -/
def keywords : List String := ["!", "case", "do", "done", "elif", "else", "esac", "fi", "for", "if",
  "in", "then", "until", "while", "\x7b", "\x7d"]

namespace Token

/-- The text of a word that nothing is quoted in or put into. -/
def plain? : Token → Option String
  | .word [.text chars false] => some (String.ofList chars)
  | _ => none

def keyword? (token : Token) : Option String := token.plain?.filter keywords.contains

/-- How complaints call the token. -/
def shown (token : Token) : String :=
  match token.keyword? with
  | some keyword => "\"" ++ keyword ++ "\""
  | none =>
    match token with
    | .ended => "end of file"
    | .newline => "newline"
    | .word _ => "word"
    | .redirection .. => "redirection"
    | .sign text => "\"" ++ text ++ "\""

end Token

/-- The signs, those first that others start with. -/
def signs : List String := [";;", ";", "&&", "&", "||", "|", "(", ")"]

def redirectionSigns : List String := ["<<-", "<<", "<&", "<>", "<", ">>", ">&", ">|", ">"]

/-- The first sign of a list that the text starts with. -/
def sign? (list : List String) (text : List Char) : Option (String × List Char) :=
  list.findSome? fun sign =>
    if sign.toList.isPrefixOf text then some (sign, text.drop sign.length) else none

/-- The next word or sign. A digit right before the sign of a redirection belongs to it. -/
def token (lists : Lists) : Reading Token := fun text =>
  let text := skipBlanks text
  match text with
  | [] => .ok (.ended, [])
  | '\n' :: rest => .ok (.newline, rest)
  | c :: rest =>
    match sign? signs text, sign? redirectionSigns text with
    | some (sign, rest), _ => .ok (.sign sign, rest)
    | none, some (sign, rest) => .ok (.redirection none sign, rest)
    | none, none =>
      match if c.isDigit then sign? redirectionSigns rest else none with
      | some (sign, rest) => .ok (.redirection (some (c.toNat - 0x30)) sign, rest)
      | none => do
        let (word, rest) ← word lists text
        return (.word word, rest)

end Rendezvous.Shell
