import Rendezvous.Pattern.CharacterClass
import Rendezvous.Pattern.Lexeme

/-! What may follow a backslash in a pattern. -/
namespace Rendezvous.Pattern

open Unicode (CodePoints)

inductive Escape where
  | literal (c : Char)
  | oneOf (set : CodePoints)
  | look (condition : Look)

namespace Escape

def named? : Char → Option Char
  | 'a' => some '\x07'
  | 'f' => some '\x0c'
  | 't' => some '\t'
  | 'n' => some '\n'
  | 'r' => some '\r'
  | 'v' => some '\x0b'
  | _ => none

/-- A class of Unicode, by one letter or in braces. -/
def property? (flags : Flags) (negated : Bool) (text : List Char) :
    Option (CodePoints × List Char) :=
  if flags.unicode then
    match Lexeme.skip flags.verbose text with
    | '\x7b' :: rest =>
      (Lexeme.braced? flags.verbose rest).bind fun (name, rest) =>
        ((CharacterClass.braced? name).bind (CharacterClass.foldAndNegate flags negated)).map
          fun set => (set, rest)
    | letter :: rest =>
      ((CharacterClass.property? (String.singleton letter)).bind
        (CharacterClass.foldAndNegate flags negated)).map fun set => (set, rest)
    | [] => none
  else none

def edge? : String → Option WordEdge
  | "start" => some .start
  | "end" => some .stop
  | "start-half" => some .startHalf
  | "end-half" => some .stopHalf
  | _ => none

/-- A place beside a word. Braces that open with a letter or a hyphen must name one; other
braces are left to be read as a count. -/
def boundary? (verbose : Bool) (text : List Char) : Option (WordEdge × List Char) :=
  let isNamePart (c : Char) : Bool := c.isAlpha || c = '-'
  match text with
  | '\x7b' :: rest =>
    match Lexeme.longest verbose isNamePart (Lexeme.skip verbose rest) with
    | ([], _ :: _) => some (.boundary, text)
    | (name, '\x7d' :: rest) => (edge? (String.ofList name)).map fun edge => (edge, rest)
    | _ => none
  | _ => some (.boundary, text)

/-- Reads what stands after a backslash. Any ASCII character but letters, digits and angle
brackets stands for itself. -/
def read? (flags : Flags) : List Char → Option (Escape × List Char)
  | [] => none
  | c :: rest =>
    let word (edge : WordEdge) : Option (Escape × List Char) :=
      some (.look (.word flags.unicode edge), rest)
    let hex (width : Nat) : Option (Escape × List Char) :=
      (Lexeme.codePoint? flags.verbose width rest).bind fun (point, braced, rest) =>
        if c = 'x' ∧ ¬braced ∧ ¬flags.unicode ∧ 0x7F < point.toNat then none
        else some (.literal point, rest)
    match c with
    | 'x' => hex 2
    | 'u' => hex 4
    | 'U' => hex 8
    | 'p' => (property? flags false rest).map fun (set, rest) => (.oneOf set, rest)
    | 'P' => (property? flags true rest).map fun (set, rest) => (.oneOf set, rest)
    | 'A' => some (.look .textStart, rest)
    | 'z' => some (.look .textStop, rest)
    | 'B' => word .interior
    | '<' => word .start
    | '>' => word .stop
    | 'b' =>
      (boundary? flags.verbose rest).map fun (edge, rest) =>
        (.look (.word flags.unicode edge), rest)
    | _ =>
      if c = 'd' ∨ c = 's' ∨ c = 'w' then
        (CharacterClass.short? flags c false).map fun set => (.oneOf set, rest)
      else if c = 'D' ∨ c = 'S' ∨ c = 'W' then
        (CharacterClass.short? flags c.toLower true).map fun set => (.oneOf set, rest)
      else if c.isAlphanum ∨ 0x7F < c.toNat then (named? c).map fun c => (.literal c, rest)
      else some (.literal c, rest)

end Escape
end Rendezvous.Pattern
