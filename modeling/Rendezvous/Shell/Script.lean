/-! Scripts of the command language: words, of which some parts are still to be put in,
redirections, and commands. -/
namespace Rendezvous.Shell

/-- Bytes, each written as the character of the same number. -/
abbrev Octets := List Char

/-- How a file is opened. -/
inductive Opening where
  | reading
  | writing
  | appending
  | both
  deriving DecidableEq, Repr

mutual

/-- A part of a word. What comes out of an unquoted part is split into fields. -/
inductive Piece where
  | text (chars : Octets) (quoted : Bool)
  | parameter (name : String) (use : Use) (quoted : Bool)
  | output (body : Command) (quoted : Bool)
  | arithmetic (expression : List Piece) (quoted : Bool)

/-- What is taken of a parameter. -/
inductive Use where
  | value
  | length
  /-- By the mark: a word for a missing value, the same and the parameter is set to it, a
  complaint, or a word for a present value. An empty value may count as missing. -/
  | checked (mark : Char) (emptyToo : Bool) (word : List Piece)
  /-- The value without the part at its start or end that fits a pattern. -/
  | trimmed (atEnd longest : Bool) (pattern : List Piece)
  | malformed

inductive Redirection where
  | file (descriptor : Nat) (opening : Opening) (path : List Piece)
  | duplicate (descriptor : Nat) (source : List Piece)
  | document (descriptor : Nat) (content : List Piece)

inductive Command where
  | nothing
  | simple (line : Nat) (assignments : List (String × List Piece)) (words : List (List Piece))
    (redirections : List Redirection)
  | redirected (body : Command) (line : Nat) (redirections : List Redirection)
  | pipeline (stages : List Command)
  | negated (body : Command)
  | both (first second : Command)
  | either (first second : Command)
  | inOrder (first second : Command)
  | background (body : Command)
  | subshell (body : Command)
  | choice (condition yes no : Command)
  | loop (stopOn : Bool) (condition body : Command)
  | each (name : String) (words : List (List Piece)) (body : Command)
  | select (subject : List Piece) (arms : List (List (List Piece) × Command))
  | define (name : String) (body : Command)

end

abbrev Word := List Piece

/-- Why a script cannot be read. -/
inductive SyntaxFault where
  | openQuote
  | openBackquote
  | openBrace
  | openSum
  | badFunctionName
  | badLoopVariable
  | unexpected (found : String) (expected : Option String)
  deriving DecidableEq, Repr

def SyntaxFault.message : SyntaxFault → String
  | .openQuote => "Unterminated quoted string"
  | .openBackquote => "EOF in backquote substitution"
  | .openBrace => "Missing '\x7d'"
  | .openSum => "Missing '))'"
  | .badFunctionName => "Bad function name"
  | .badLoopVariable => "Bad for loop variable"
  | .unexpected found none => found ++ " unexpected"
  | .unexpected found (some expected) => found ++ " unexpected (expecting " ++ expected ++ ")"

/-- A fault, and how many lines of the script were still to come. -/
structure Refusal where
  fault : SyntaxFault
  linesLeft : Nat

abbrev Reading (α : Type) := List Char → Except Refusal (α × List Char)

def linesLeft (text : List Char) : Nat := text.count '\n'

def refuse (fault : SyntaxFault) (text : List Char) : Except Refusal α :=
  .error ⟨fault, linesLeft text⟩

end Rendezvous.Shell
