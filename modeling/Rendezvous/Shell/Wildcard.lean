import Rendezvous.Shell.Script

/-! Patterns of the shell, matched byte by byte: a star for any text, a question mark for one
character, and sets in brackets. Quoted characters stand for themselves. -/
namespace Rendezvous.Shell

/-- One sign of a pattern. -/
inductive Wildcard where
  | exactly (c : Char)
  | one
  | any
  /-- One character inside the ranges, or outside of them. -/
  | among (negated : Bool) (ranges : List (Char × Char))
  deriving DecidableEq, Repr

namespace Wildcard

/-- Characters, each with whether it is quoted. -/
abbrev Marked := List (Char × Bool)

/-- The ranges of a set up to its closing bracket. -/
def ranges : (first : Bool) → (fuel : Nat) → Marked → Option (List (Char × Char) × Marked)
  | _, 0, _ => none
  | _, _ + 1, [] => none
  | first, fuel + 1, (c, quoted) :: rest =>
    if c = ']' ∧ ¬quoted ∧ ¬first then some ([], rest)
    else
      match rest with
      | ('-', false) :: (high, highQuoted) :: rest =>
        if high = ']' ∧ ¬highQuoted then
          (ranges false fuel (('-', true) :: (high, highQuoted) :: rest)).map fun (more, rest) =>
            ((c, c) :: more, rest)
        else (ranges false fuel rest).map fun (more, rest) => ((c, high) :: more, rest)
      | rest => (ranges false fuel rest).map fun (more, rest) => ((c, c) :: more, rest)

def set? (text : Marked) : Option (Wildcard × Marked) :=
  let (negated, inside) := match text with
    | ('!', false) :: rest | ('^', false) :: rest => (true, rest)
    | rest => (false, rest)
  (ranges true (inside.length + 1) inside).map fun (ranges, rest) => (.among negated ranges, rest)

/-- Reads a pattern. A bracket that is never closed stands for itself. -/
def ofMarked : (fuel : Nat) → Marked → List Wildcard
  | 0, _ => []
  | _ + 1, [] => []
  | fuel + 1, (c, quoted) :: rest =>
    if quoted then .exactly c :: ofMarked fuel rest
    else if c = '*' then .any :: ofMarked fuel rest
    else if c = '?' then .one :: ofMarked fuel rest
    else if c = '[' then
      match set? rest with
      | some (set, rest) => set :: ofMarked fuel rest
      | none => .exactly c :: ofMarked fuel rest
    else .exactly c :: ofMarked fuel rest

/-- Whether one sign takes a character. -/
def takes (c : Char) : Wildcard → Bool
  | .exactly expected => c = expected
  | .one => true
  | .any => false
  | .among negated ranges => (ranges.any fun range => range.1 ≤ c && c ≤ range.2) != negated

/-- Whether a pattern fits some rest of a text, or the whole of it. -/
def fitsSomeRest (fits : Octets → Bool) : Octets → Bool
  | [] => fits []
  | c :: rest => fits (c :: rest) || fitsSomeRest fits rest

/-- Whether a pattern fits a whole text. -/
def fits : List Wildcard → Octets → Bool
  | [], text => text.isEmpty
  | .any :: pattern, text => fitsSomeRest (fits pattern) text
  | sign :: pattern, c :: rest => sign.takes c && fits pattern rest
  | _ :: _, [] => false

/-- The value without the shortest or longest part at its start or end that fits. -/
def trim (pattern : List Wildcard) (atEnd longest : Bool) (value : Octets) : Octets :=
  let lengths := List.range (value.length + 1)
  let sizes := if longest then lengths.reverse else lengths
  let part (size : Nat) : Octets :=
    if atEnd then value.drop (value.length - size) else value.take size
  match sizes.find? fun size => fits pattern (part size) with
  | none => value
  | some size => if atEnd then value.take (value.length - size) else value.drop size

end Wildcard
end Rendezvous.Shell
