import Rendezvous.Text.Blank

/-! The smallest pieces of a written pattern: blanks and comments, which mean nothing in the
verbose notation, runs of characters between them, counts, and code points in hexadecimal
digits. -/
namespace Rendezvous.Pattern.Lexeme

open Text (isBlank)

/-- Drops blanks and comments, which end with their line. -/
def dropBlanks (inComment : Bool) : List Char → List Char
  | [] => []
  | c :: rest =>
    if inComment then dropBlanks (c ≠ '\n') rest
    else if isBlank c then dropBlanks false rest
    else if c = '#' then dropBlanks true rest
    else c :: rest

/-- The text from the next character that counts. -/
def skip (verbose : Bool) (text : List Char) : List Char :=
  if verbose then dropBlanks false text else text

/-- The longest run of accepted characters, of at most `limit`, and what stands after it.
Blanks and comments inside and behind the run are passed over where they mean nothing. -/
def run (verbose : Bool) (accept : Char → Bool) (inComment : Bool) (limit : Nat) :
    List Char → List Char × List Char
  | [] => ([], [])
  | c :: rest =>
    if inComment then run verbose accept (c ≠ '\n') limit rest
    else if verbose ∧ isBlank c then run verbose accept false limit rest
    else if verbose ∧ c = '#' then run verbose accept true limit rest
    else if limit = 0 ∨ ¬accept c then ([], c :: rest)
    else
      let (taken, rest) := run verbose accept false (limit - 1) rest
      (c :: taken, rest)

/-- All of a run, however long. -/
def longest (verbose : Bool) (accept : Char → Bool) (text : List Char) :
    List Char × List Char :=
  run verbose accept false text.length text

/-- What lies between braces, the opening one being read already. -/
def braced? (verbose : Bool) (text : List Char) : Option (List Char × List Char) :=
  match longest verbose (· ≠ '\x7d') text with
  | (inside, _ :: rest) => some (inside, rest)
  | (_, []) => none

def digitValue (c : Char) : Nat :=
  if c.isDigit then c.toNat - 0x30 else (c.toNat - 0x41) % 0x20 + 10

def isHexDigit (c : Char) : Bool :=
  c.isDigit || ('a' ≤ c && c ≤ 'f') || ('A' ≤ c && c ≤ 'F')

def number (base : Nat) (digits : List Char) : Nat :=
  digits.foldl (fun value digit => value * base + digitValue digit) 0

/-- A count of at most 32 bits. Blanks may stand around it and, in the verbose notation,
between its digits. -/
def count? (verbose : Bool) (text : List Char) : Option (Nat × List Char) :=
  let (digits, rest) := longest verbose Char.isDigit (text.dropWhile isBlank)
  if digits = [] ∨ Nat.pow 2 32 ≤ number 10 digits then none
  else some (number 10 digits, rest.dropWhile isBlank)

/-- The character that hexadecimal digits stand for; surrogates are no characters. -/
def character? (digits : List Char) : Option Char :=
  let point := number 16 digits
  if digits = [] ∨ digits.any (!isHexDigit ·) then none
  else if point.isValidChar then some (Char.ofNat point) else none

/-- A character by its code point, in braces or in exactly `width` digits. Tells also
whether it was in braces. -/
def codePoint? (verbose : Bool) (width : Nat) (text : List Char) :
    Option (Char × Bool × List Char) :=
  match skip verbose text with
  | '\x7b' :: rest =>
    (braced? verbose rest).bind fun (digits, rest) =>
      (character? digits).map fun c => (c, true, rest)
  | text =>
    let (digits, rest) := run verbose isHexDigit false width text
    if digits.length = width then (character? digits).map fun c => (c, false, rest) else none

end Rendezvous.Pattern.Lexeme
