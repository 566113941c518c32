/-! Sets of code points as ascending lists of closed ranges that neither touch nor overlap,
with the set operations, and the compact text in which the tables of this folder are
written. Surrogates belong to no set: the whole is the set of characters. -/
namespace Rendezvous.Unicode

/-- Closed ranges `(low, high)`. -/
abbrev CodePoints := List (Nat × Nat)

namespace CodePoints

def mem (set : CodePoints) (point : Nat) : Bool :=
  set.any fun range => range.1 ≤ point && point ≤ range.2

/-- Joins ranges that touch or overlap in a list ascending by lower end. -/
def coalesce : List (Nat × Nat) → CodePoints
  | [] => []
  | range :: rest =>
    match coalesce rest with
    | [] => [range]
    | next :: others =>
      if next.1 ≤ range.2 + 1 then (range.1, max range.2 next.2) :: others
      else range :: next :: others

/-- The set that covers any ranges, in any order. -/
def ofRanges (ranges : List (Nat × Nat)) : CodePoints :=
  coalesce (ranges.mergeSort fun a b => a.1 ≤ b.1)

def ofList (points : List Nat) : CodePoints := ofRanges (points.map fun point => (point, point))

/-- Every character: all code points but the surrogates. -/
def all : CodePoints := [(0, 0xD7FF), (0xE000, 0x10FFFF)]

def union (a b : CodePoints) : CodePoints := ofRanges (a ++ b)

/-- What remains of the range from `low` to `high` when the set is taken out. -/
def gaps (low high : Nat) : CodePoints → CodePoints
  | [] => if low ≤ high then [(low, high)] else []
  | range :: rest =>
    if range.2 < low then gaps low high rest
    else if high < range.1 then if low ≤ high then [(low, high)] else []
    else if low < range.1 then (low, range.1 - 1) :: gaps (range.2 + 1) high rest
    else gaps (range.2 + 1) high rest

/-- The characters outside the set. -/
def complement (set : CodePoints) : CodePoints := all.flatMap fun range => gaps range.1 range.2 set

def inter (a b : CodePoints) : CodePoints := complement (union (complement a) (complement b))

def diff (a b : CodePoints) : CodePoints := inter a (complement b)

def symmDiff (a b : CodePoints) : CodePoints := diff (union a b) (inter a b)

/-- Value of a lower-case hexadecimal digit. -/
def hexDigit (c : Char) : Nat :=
  if c.toNat < 0x3A then c.toNat - 0x30 else c.toNat - 0x57

/-- Numbers in base 16 with dots between them. -/
def dottedFrom (number : Nat) : List Char → List Nat
  | [] => [number]
  | c :: rest =>
    if c = '.' then number :: dottedFrom 0 rest else dottedFrom (16 * number + hexDigit c) rest

/-- The words of a text, parted by blanks and line ends. -/
def wordsFrom (word : List Char) : List Char → List (List Char)
  | [] => if word = [] then [] else [word.reverse]
  | c :: rest =>
    if c = ' ' ∨ c = '\n' then
      if word = [] then wordsFrom [] rest else word.reverse :: wordsFrom [] rest
    else wordsFrom (c :: word) rest

/-- Reads words that are dotted lists of code points. -/
def readDotted (text : String) : List (List Nat) :=
  (wordsFrom [] text.toList).map (dottedFrom 0)

/-- Ranges from a position on, each given by its gap to the range before and its extent. -/
def place (position : Nat) : List (List Nat) → CodePoints
  | [] => []
  | range :: rest =>
    let low := position + range.headD 0
    let high := low + (range.drop 1).headD 0
    (low, high) :: place (high + 1) rest

/-- Reads words `gap` or `gap.extent` as ranges. -/
def read (text : String) : CodePoints := place 0 (readDotted text)

@[simp] theorem mem_nil (point : Nat) : mem [] point = false := rfl

@[simp] theorem mem_cons (range : Nat × Nat) (set : CodePoints) (point : Nat) :
    mem (range :: set) point = (range.1 ≤ point && point ≤ range.2 || mem set point) := by
  simp [mem]

end CodePoints
end Rendezvous.Unicode
