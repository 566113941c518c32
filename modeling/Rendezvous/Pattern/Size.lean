import Rendezvous.Pattern.Expr

/-! The size of the automaton that an expression stands for, in bytes. Counts are multiplied
out here, and a set of characters is a tree over the bytes of UTF-8, with one state for each
edge and one way out of a choice for each leaf. Patterns above a limit are refused. -/
namespace Rendezvous.Pattern

open Unicode (CodePoints)

namespace ByteTree

/-- What ranges of numbers look like from one level up: blocks that are filled, joined where
a range fills several, and blocks with ranges inside them. -/
inductive Block where
  | filled
  | partly (number : Nat) (inside : List (Nat × Nat))

/-- Puts a range into the last block if it belongs there. -/
def add (number : Nat) (range : Nat × Nat) : List Block → List Block
  | .partly last inside :: rest =>
    if last = number then .partly last (range :: inside) :: rest
    else .partly number [range] :: .partly last inside :: rest
  | blocks => .partly number [range] :: blocks

/-- Cuts a range at the multiples of `size`, the last block first. -/
def cut (size : Nat) (blocks : List Block) (range : Nat × Nat) : List Block :=
  let low := range.1 / size
  let high := range.2 / size
  if low = high ∧ ¬(range.1 % size = 0 ∧ range.2 % size = size - 1) then
    add low (range.1 % size, range.2 % size) blocks
  else
    let first := if range.1 % size = 0 then low else low + 1
    let stop := if range.2 % size = size - 1 then high + 1 else high
    let blocks := if first = low then blocks else add low (range.1 % size, size - 1) blocks
    let blocks := if first < stop then .filled :: blocks else blocks
    if stop = high + 1 then blocks else add high (0, range.2 % size) blocks

/-- Edges and leaves of the tree below ranges with so many continuation bytes. -/
def count : (levels : Nat) → List (Nat × Nat) → Nat × Nat
  | 0, ranges => (ranges.length, ranges.length)
  | levels + 1, ranges =>
    (ranges.foldl (cut (Nat.pow 64 (levels + 1))) []).foldl (fun (edges, leaves) block =>
      match block with
      | .filled => (edges + levels + 2, leaves + 1)
      | .partly _ inside =>
        let (more, ends) := count levels inside.reverse
        (edges + 1 + more, leaves + ends)) (0, 0)

/-- The part of a set between two code points. -/
def between (low high : Nat) (set : CodePoints) : List (Nat × Nat) :=
  set.filterMap fun range =>
    if range.1 ≤ high ∧ low ≤ range.2 then some (max range.1 low, min range.2 high) else none

/-- Edges and leaves of the tree of a set. -/
def ofSet (set : CodePoints) : Nat × Nat :=
  let parts := [count 0 (between 0 0x7F set), count 1 (between 0x80 0x7FF set),
    count 2 (between 0x800 0xFFFF set), count 3 (between 0x10000 0x10FFFF set)]
  parts.foldl (fun (edges, leaves) part => (edges + part.1, leaves + part.2)) (0, 0)

end ByteTree

namespace Expr

/-- Bytes of one state, of one range of bytes inside a state, and of one way out of a
choice. -/
def stateBytes : Nat := 32
def rangeBytes : Nat := 8
def choiceBytes : Nat := 4

def setBytes (set : CodePoints) : Nat :=
  match set with
  | [] => stateBytes
  | [(low, high)] =>
    if low = high then (Char.ofNat low).utf8Size * stateBytes else severalBytes [(low, high)]
  | set => severalBytes set
where
  severalBytes (set : CodePoints) : Nat :=
    if List.all set fun range => range.2 < 0x80 then 2 * stateBytes + set.length * rangeBytes
    else
      let (edges, leaves) := ByteTree.ofSet set
      (edges + 2) * stateBytes + leaves * choiceBytes

/-- Whether the expression takes no character wherever it matches. -/
def isZeroWidth : Expr → Bool
  | .empty => true
  | .one _ => false
  | .look _ => true
  | .capture body => body.isZeroWidth
  | .seq first second => first.isZeroWidth && second.isZeroWidth
  | .alt first second => first.isZeroWidth && second.isZeroWidth
  | .rounds _ high body => high = some 0 || body.isZeroWidth

/-- The bytes of the automaton. Rounds that take no character are not repeated. -/
def bytes : Expr → Nat
  | .empty => stateBytes
  | .one set => setBytes set
  | .look _ => stateBytes
  | .capture body => body.bytes + 2 * stateBytes
  | .seq first second => first.bytes + second.bytes
  | .alt first second => first.bytes + second.bytes + 2 * (stateBytes + choiceBytes)
  | .rounds low high body =>
    let clip (count : Nat) : Nat := if body.isZeroWidth then min count 1 else count
    let choice := stateBytes + 2 * choiceBytes
    match high with
    | none => max (clip low) 1 * body.bytes + choice
    | some high =>
      clip low * body.bytes + (clip high - clip low) * (body.bytes + choice) + stateBytes

/-- The largest automaton that is built: ten mebibytes. -/
def bytesLimit : Nat := 10 * Nat.pow 2 20

end Expr
end Rendezvous.Pattern
