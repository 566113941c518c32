import Rendezvous.Pattern.Bracket
import Rendezvous.Pattern.Size

/-! Patterns as they are written: items in a row, branches, groups, repetitions and flags. A
pattern that reads may still stand for an automaton that is too large. -/
namespace Rendezvous.Pattern

open Unicode (CodePoints)

/-- An expression and how deep its parts are nested as they are written. -/
structure Nested where
  expr : Expr
  depth : Nat

/-- One item of a row. Flags that hold from where they stand cannot be repeated. -/
inductive Item where
  | flags
  | piece (part : Nested)

namespace Item

def depth : Item → Nat
  | .flags => 0
  | .piece part => part.depth

def expr : Item → Expr
  | .flags => .empty
  | .piece part => part.expr

end Item

namespace Reader

/-- The deepest nesting that is read. -/
def depthLimit : Nat := 250

def inSequence : List Expr → Expr
  | [] => .empty
  | [expr] => expr
  | .empty :: rest => inSequence rest
  | expr :: rest =>
    match inSequence rest with
    | .empty => expr
    | rest => .seq expr rest

/-- Items in a row, the last one first. -/
def row (items : List Item) : Nested :=
  { expr := inSequence (items.reverse.map Item.expr)
    depth := (items.map Item.depth).foldl max 0 + if 2 ≤ items.length then 1 else 0 }

/-- The set that branches make when each of them takes one character of a set. -/
def oneOf? : List Expr → Option CodePoints
  | [] => some []
  | .one set :: rest => (oneOf? rest).map set.union
  | _ :: _ => none

def inBranches : List Expr → Expr
  | [] => .empty
  | [expr] => expr
  | expr :: rest => .alt expr (inBranches rest)

/-- Branches, the last one first. -/
def choice : List Nested → Nested
  | [only] => only
  | branches =>
    let exprs := branches.reverse.map Nested.expr
    { expr := match oneOf? exprs with
        | some set => .one set
        | none => inBranches exprs
      depth := (branches.map Nested.depth).foldl max 0 + 1 }

/-- Reads the letters of flags up to a colon or a parenthesis, given those that have come
before and whether a hyphen, which switches off what follows, was among them. -/
def flagsFrom (seen : List Char) (off : Bool) (flags : Flags) :
    List Char → Option (Flags × Bool × List Char)
  | [] => none
  | c :: rest =>
    if c = ':' ∨ c = ')' then
      if seen.head? = some '-' ∨ (c = ')' ∧ seen = []) then none
      else some (flags, c = ')', rest)
    else if seen.contains c then none
    else if c = '-' then flagsFrom (c :: seen) true flags rest
    else
      match switch c with
      | some flags => flagsFrom (c :: seen) off flags rest
      | none => none
where
  switch : Char → Option Flags
    | 'i' => some { flags with ignoreCase := !off }
    | 'm' => some { flags with multiLine := !off }
    | 's' => some { flags with dotAll := !off }
    | 'R' => some { flags with crlf := !off }
    | 'u' => some { flags with unicode := !off }
    | 'x' => some { flags with verbose := !off }
    | 'U' => some flags
    | _ => none

def isAlphabetic (c : Char) : Bool := ((Unicode.Property.find? "alphabetic").getD []).mem c.toNat

def isNumeric (c : Char) : Bool :=
  ((Unicode.GeneralCategory.find? "n").getD []).mem c.toNat

/-- The name of a group, up to the closing angle bracket. -/
def name? (text : List Char) : Option (List Char × List Char) :=
  let isInner (c : Char) : Bool :=
    c = '_' || c = '.' || c = '[' || c = ']' || isAlphabetic c || isNumeric c
  match text.takeWhile (· ≠ '>'), text.dropWhile (· ≠ '>') with
  | first :: inner, _ :: rest =>
    if (first = '_' ∨ isAlphabetic first) ∧ inner.all isInner then some (first :: inner, rest)
    else none
  | _, _ => none

/-- What an opening parenthesis can begin. -/
inductive Opening where
  | flags (flags : Flags)
  | group (flags : Flags)
  | capture (name : Option (List Char))

/-- Reads behind an opening parenthesis. There is no looking ahead or behind. -/
def opening? (flags : Flags) (text : List Char) : Option (Opening × List Char) :=
  match Lexeme.skip flags.verbose text with
  | '?' :: 'P' :: '<' :: rest =>
    (name? rest).map fun (name, rest) => (.capture (some name), rest)
  | '?' :: '<' :: rest => (name? rest).map fun (name, rest) => (.capture (some name), rest)
  | '?' :: rest =>
    (flagsFrom [] false flags rest).map fun (flags, alone, rest) =>
      (if alone then .flags flags else .group flags, rest)
  | rest => some (.capture none, rest)

/-- The counts in braces, behind the opening one. -/
def counts? (verbose : Bool) (text : List Char) : Option (Nat × Option Nat × List Char) :=
  match Lexeme.count? verbose (Lexeme.skip verbose text) with
  | some (low, '\x7d' :: rest) => some (low, some low, rest)
  | some (low, ',' :: rest) =>
    match Lexeme.skip verbose rest with
    | '\x7d' :: rest => some (low, none, rest)
    | rest =>
      match Lexeme.count? verbose rest with
      | some (high, '\x7d' :: rest) => if low ≤ high then some (low, some high, rest) else none
      | _ => none
  | _ => none

/-- How often an item stands when a sign of repetition follows it. Which match is preferred
makes no difference to whether there is one, so a question mark behind the sign is dropped. -/
def repetition? (verbose : Bool) (sign : Char) (text : List Char) :
    Option (Nat × Option Nat × List Char) :=
  match sign with
  | '?' => some (0, some 1, dropMark text)
  | '*' => some (0, none, dropMark text)
  | '+' => some (1, none, dropMark text)
  | _ => (counts? verbose text).map fun (low, high, rest) =>
    (low, high, dropMark (Lexeme.skip verbose rest))
where
  dropMark : List Char → List Char
    | '?' :: rest => rest
    | text => text

def dot? (flags : Flags) : Option CodePoints :=
  if ¬flags.unicode then none
  else if flags.dotAll then some CodePoints.all
  else if flags.crlf then some (CodePoints.complement [(0x0A, 0x0A), (0x0D, 0x0D)])
  else some (CodePoints.complement [(0x0A, 0x0A)])

def literal (flags : Flags) (c : Char) : Expr :=
  .one (CharacterClass.fold flags [(c.toNat, c.toNat)])

/-- An item of one character, and what follows it. -/
def single? (flags : Flags) : List Char → Option (Expr × List Char)
  | [] => none
  | '\\' :: rest =>
    (Escape.read? flags rest).map fun (escape, rest) =>
      match escape with
      | .literal c => (literal flags c, rest)
      | .oneOf set => (.one set, rest)
      | .look condition => (.look condition, rest)
  | '.' :: rest => (dot? flags).map fun set => (.one set, rest)
  | '^' :: rest =>
    some (.look (if flags.multiLine then .lineStart flags.crlf else .textStart), rest)
  | '$' :: rest =>
    some (.look (if flags.multiLine then .lineStop flags.crlf else .textStop), rest)
  | c :: rest => some (literal flags c, rest)

/-- Reads to the parenthesis that closes the group, or to the end of the text. The names of
groups that have been used, the branches that are complete and the items of the last one are
known. Each round takes a character. -/
def body : (fuel : Nat) → Flags → List (List Char) → List Nested → List Item → List Char →
    Option (Nested × List (List Char) × List Char)
  | 0, _, _, _, _, _ => none
  | fuel + 1, flags, names, branches, items, text =>
    match Lexeme.skip flags.verbose text with
    | [] => some (choice (row items :: branches), names, [])
    | ')' :: rest => some (choice (row items :: branches), names, ')' :: rest)
    | '|' :: rest => body fuel flags names (row items :: branches) [] rest
    | '(' :: rest =>
      match opening? flags rest with
      | none => none
      | some (.flags flags, rest) => body fuel flags names branches (.flags :: items) rest
      | some (.group inner, rest) =>
        match body fuel inner names [] [] rest with
        | some (part, names, ')' :: rest) =>
          body fuel flags names branches (.piece ⟨part.expr, part.depth + 1⟩ :: items) rest
        | _ => none
      | some (.capture name, rest) =>
        if name.any names.contains then none
        else
          match body fuel flags (name.toList ++ names) [] [] rest with
          | some (part, names, ')' :: rest) =>
            body fuel flags names branches
              (.piece ⟨.capture part.expr, part.depth + 1⟩ :: items) rest
          | _ => none
    | '[' :: rest =>
      match Bracket.read? flags rest with
      | some (part, rest) =>
        body fuel flags names branches (.piece ⟨.one part.set, part.depth⟩ :: items) rest
      | none => none
    | c :: rest =>
      if c = '?' ∨ c = '*' ∨ c = '+' ∨ c = '\x7b' then
        match items, repetition? flags.verbose c rest with
        | .piece part :: items, some (low, high, rest) =>
          body fuel flags names branches
            (.piece ⟨.rounds low high part.expr, part.depth + 1⟩ :: items) rest
        | _, _ => none
      else
        match single? flags (c :: rest) with
        | some (expr, rest) => body fuel flags names branches (.piece ⟨expr, 0⟩ :: items) rest
        | none => none

end Reader

/-- Reads a pattern. -/
def Expr.read? (pattern : String) : Option Expr :=
  match Reader.body (pattern.toList.length + 1) {} [] [] [] pattern.toList with
  | some (part, _, []) => if part.depth ≤ Reader.depthLimit then some part.expr else none
  | _ => none

inductive Fault where
  | malformed
  | tooBig
  deriving DecidableEq, Repr

/-- Reads a pattern and makes sure that its automaton is not too large. -/
def Expr.compile (pattern : String) : Except Fault Expr :=
  match Expr.read? pattern with
  | none => .error .malformed
  | some expr => if expr.bytes ≤ Expr.bytesLimit then .ok expr else .error .tooBig

end Rendezvous.Pattern
