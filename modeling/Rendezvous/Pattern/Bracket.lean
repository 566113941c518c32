import Rendezvous.Pattern.Escape

/-! Sets of characters in square brackets: characters, ranges, classes and sets inside a set,
put together, and operations between them, which are all of one rank and taken from the left.
A set is read together with the depth of its nesting. -/
namespace Rendezvous.Pattern

open Unicode (CodePoints)

namespace Bracket

structure Part where
  set : CodePoints
  depth : Nat

/-- What two equal signs in a row do to the sets around them. -/
inductive Operation where
  | intersection
  | difference
  | symmetricDifference

def Operation.ofSigns? : Char → Char → Option Operation
  | '&', '&' => some .intersection
  | '-', '-' => some .difference
  | '~', '~' => some .symmetricDifference
  | _, _ => none

def Operation.apply : Operation → CodePoints → CodePoints → CodePoints
  | .intersection => CodePoints.inter
  | .difference => CodePoints.diff
  | .symmetricDifference => CodePoints.symmDiff

/-- Items side by side: two or more of them are a level of nesting. -/
def together (items : List Part) : Part :=
  { set := items.foldl (fun set item => set.union item.set) []
    depth := (items.map Part.depth).foldl max 0 + if 2 ≤ items.length then 1 else 0 }

/-- The items of one side, joined to what stands left of the last operation. -/
def close (flags : Flags) (left : Option (Part × Operation)) (items : List Part) : Part :=
  match left with
  | none => together items
  | some (part, operation) =>
    let right := together items
    { set := operation.apply (CharacterClass.fold flags part.set)
        (CharacterClass.fold flags right.set)
      depth := max part.depth right.depth + 1 }

def literal? (flags : Flags) (c : Char) : Option Part :=
  if flags.unicode ∨ c.toNat ≤ 0x7F then some ⟨[(c.toNat, c.toNat)], 0⟩ else none

/-- One character or one class, as an item or as an end of a range. -/
def item? (flags : Flags) : List Char → Option (Escape × List Char)
  | [] => none
  | '\\' :: rest => Escape.read? flags rest
  | c :: rest => some (.literal c, rest)

def asItem? (flags : Flags) : Escape → Option Part
  | .literal c => literal? flags c
  | .oneOf set => some ⟨set, 0⟩
  | .look _ => none

/-- What would be read behind a hyphen, with blanks and the sign of a comment passed over. -/
def afterHyphen (verbose : Bool) (text : List Char) : Option Char :=
  if verbose then
    match text.dropWhile Text.isBlank with
    | '#' :: rest => (rest.dropWhile Text.isBlank).head?
    | rest => rest.head?
  else text.head?

/-- An item, or a range of characters. A hyphen before the closing bracket or before another
hyphen makes no range. -/
def range? (flags : Flags) (text : List Char) : Option (Part × List Char) :=
  (item? flags text).bind fun (first, rest) =>
    match Lexeme.skip flags.verbose rest with
    | [] => none
    | '-' :: rest =>
      let next := afterHyphen flags.verbose rest
      if next = some ']' ∨ next = some '-' then
        (asItem? flags first).map fun part => (part, '-' :: rest)
      else
        (item? flags (Lexeme.skip flags.verbose rest)).bind fun (last, rest) =>
          match first, last with
          | .literal low, .literal high =>
            if low ≤ high ∧ (literal? flags high).isSome then
              some (⟨CodePoints.inter [(low.toNat, high.toNat)] CodePoints.all, 0⟩, rest)
            else none
          | _, _ => none
    | rest => (asItem? flags first).map fun part => (part, rest)

/-- A class of ASCII by its name between colons, such as `[:alpha:]`, behind its opening
bracket. Anything else is no such class, but may be a set inside the set. -/
def named? (text : List Char) : Option (Bool × CodePoints × List Char) :=
  match text with
  | ':' :: rest =>
    let (negated, rest) := match rest with
      | '^' :: rest => (true, rest)
      | rest => (false, rest)
    match rest.dropWhile (· ≠ ':') with
    | ':' :: ']' :: after =>
      (CharacterClass.named? (String.ofList (rest.takeWhile (· ≠ ':')))).map fun set =>
        (negated, set, after)
    | _ => none
  | _ => none

/-- Hyphens that open a set stand for themselves. -/
def hyphens (verbose : Bool) : Nat → List Part → List Char → List Part × List Char
  | fuel + 1, items, '-' :: rest =>
    hyphens verbose fuel (⟨[(0x2D, 0x2D)], 0⟩ :: items) (Lexeme.skip verbose rest)
  | _, items, text => (items, text)

/-- What opens a set behind its bracket: whether it is negated, and the items that only stand
for themselves there. -/
def opening (verbose : Bool) (text : List Char) : Bool × List Part × List Char :=
  let text := Lexeme.skip verbose text
  let (negated, text) := match text with
    | '^' :: rest => (true, Lexeme.skip verbose rest)
    | text => (false, text)
  match hyphens verbose text.length [] text with
  | ([], ']' :: rest) => (negated, [⟨[(0x5D, 0x5D)], 0⟩], Lexeme.skip verbose rest)
  | (items, rest) => (negated, items, rest)

/-- Reads to the closing bracket, given whether the set is negated and what has been read of
it: the left side of an operation, and the items since. Each round takes a character. -/
def readFrom (flags : Flags) : (fuel : Nat) → (negated : Bool) → Option (Part × Operation) →
    List Part → List Char → Option (Part × List Char)
  | 0, _, _, _, _ => none
  | fuel + 1, negated, left, items, text =>
    match Lexeme.skip flags.verbose text with
    | [] => none
    | '[' :: rest =>
      match named? rest with
      | some (negatedName, set, rest) =>
        (CharacterClass.foldAndNegate flags negatedName set).bind fun set =>
          readFrom flags fuel negated left (⟨set, 0⟩ :: items) rest
      | none =>
        let (negatedInside, inside, rest) := opening flags.verbose rest
        (readFrom flags fuel negatedInside none inside rest).bind fun (part, rest) =>
          readFrom flags fuel negated left (part :: items) rest
    | ']' :: rest =>
      let part := close flags left items
      (CharacterClass.foldAndNegate flags negated part.set).map fun set =>
        (⟨set, part.depth + 1⟩, rest)
    | c :: rest =>
      match rest.head?.bind (Operation.ofSigns? c) with
      | some operation =>
        readFrom flags fuel negated (some (close flags left items, operation)) [] (rest.drop 1)
      | none =>
        (range? flags (c :: rest)).bind fun (part, rest) =>
          readFrom flags fuel negated left (part :: items) rest

/-- Reads a set behind its opening bracket. -/
def read? (flags : Flags) (text : List Char) : Option (Part × List Char) :=
  let (negated, items, rest) := opening flags.verbose text
  readFrom flags (rest.length + 1) negated none items rest

end Bracket
end Rendezvous.Pattern
