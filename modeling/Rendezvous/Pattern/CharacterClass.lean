import Rendezvous.Unicode.CaseFold
import Rendezvous.Unicode.Script
import Rendezvous.Pattern.Expr

/-! Sets of characters that patterns name: short classes, classes in brackets and colons, and
Unicode properties; and what the flags do to a set. Without the Unicode flag a set must keep
to ASCII. -/
namespace Rendezvous.Pattern

open Unicode (CodePoints GeneralCategory.find? Script.find? Script.findExtended? Property.find?)

/-- What the letters after an opening `(?` switch. -/
structure Flags where
  ignoreCase : Bool := false
  multiLine : Bool := false
  dotAll : Bool := false
  crlf : Bool := false
  unicode : Bool := true
  /-- Blanks and comments in the pattern mean nothing. -/
  verbose : Bool := false

namespace CharacterClass

def decimalSet : CodePoints := (GeneralCategory.find? "nd").getD []

def spaceSet : CodePoints := (Property.find? "whitespace").getD []

/-- ASCII classes by the name that stands between the colons. -/
def named? (name : String) : Option CodePoints :=
  match name with
  | "alnum" => some [(0x30, 0x39), (0x41, 0x5A), (0x61, 0x7A)]
  | "alpha" => some [(0x41, 0x5A), (0x61, 0x7A)]
  | "ascii" => some [(0x00, 0x7F)]
  | "blank" => some [(0x09, 0x09), (0x20, 0x20)]
  | "cntrl" => some [(0x00, 0x1F), (0x7F, 0x7F)]
  | "digit" => some [(0x30, 0x39)]
  | "graph" => some [(0x21, 0x7E)]
  | "lower" => some [(0x61, 0x7A)]
  | "print" => some [(0x20, 0x7E)]
  | "punct" => some [(0x21, 0x2F), (0x3A, 0x40), (0x5B, 0x60), (0x7B, 0x7E)]
  | "space" => some [(0x09, 0x0D), (0x20, 0x20)]
  | "upper" => some [(0x41, 0x5A)]
  | "word" => some asciiWordSet
  | "xdigit" => some [(0x30, 0x39), (0x41, 0x46), (0x61, 0x66)]
  | _ => none

/-- Adds the other case of ASCII letters. -/
def closeAscii (set : CodePoints) : CodePoints :=
  let letters := (List.range 26).filter fun i => set.mem (0x41 + i) || set.mem (0x61 + i)
  set.union (CodePoints.ofList (letters.flatMap fun i => [0x41 + i, 0x61 + i]))

/-- The set with all cases of its characters, if the flags ignore case. -/
def fold (flags : Flags) (set : CodePoints) : CodePoints :=
  if flags.ignoreCase then
    if flags.unicode then Unicode.CaseFold.close set else closeAscii set
  else set

/-- Folds, then negates. Without the Unicode flag a negated set would not keep to ASCII. -/
def foldAndNegate (flags : Flags) (negated : Bool) (set : CodePoints) : Option CodePoints :=
  if negated then
    if flags.unicode then some (fold flags set).complement else none
  else some (fold flags set)

/-- A short class: digits, blanks or word characters, by its letter in lower case. Such sets
hold all cases of their characters anyway. -/
def short? (flags : Flags) (letter : Char) (negated : Bool) : Option CodePoints :=
  let set :=
    if letter = 'd' then if flags.unicode then decimalSet else [(0x30, 0x39)]
    else if letter = 's' then if flags.unicode then spaceSet else [(0x09, 0x0D), (0x20, 0x20)]
    else if flags.unicode then wordSet else asciiWordSet
  if negated then if flags.unicode then some set.complement else none else some set

/-- A property name as it is looked up: lower case, without blanks, hyphens, underscores and
anything beyond ASCII, and without a leading `is`. -/
def squeeze (name : String) : String :=
  let chars := name.toList
  let lead := (chars.take 2).map Char.toLower = ['i', 's']
  let rest := if lead then chars.drop 2 else chars
  let counts (c : Char) : Bool := c.toNat < 0x80 && c != ' ' && c != '_' && c != '-'
  let kept := (rest.filter counts).map Char.toLower
  if lead ∧ kept = ['c'] then "isc" else String.ofList kept

/-- A property given by one name: yes-or-no properties first, then general categories, then
scripts. Three short names of properties mean categories. -/
def property? (name : String) : Option CodePoints :=
  let name := squeeze name
  let byName := if name = "cf" ∨ name = "sc" ∨ name = "lc" then none else Property.find? name
  (byName.or (GeneralCategory.find? name)).or (Script.find? name)

/-- A property given by its name and a value. -/
def propertyValue? (name value : String) : Option CodePoints :=
  let value := squeeze value
  match squeeze name with
  | "generalcategory" | "gc" => GeneralCategory.find? value
  | "script" | "sc" => Script.find? value
  | "scriptextensions" | "scx" => Script.findExtended? value
  | _ => none

/-- What stands between the braces of a property: a name, or a name and a value with a colon,
an equals sign or an unequals sign between them. -/
def braced? (text : List Char) : Option CodePoints :=
  match splitUnequal text with
  | some (name, value) => propertyValue? (String.ofList name) (String.ofList value)
  | none =>
    let mark := if text.contains ':' then ':' else '='
    if text.contains mark then
      propertyValue? (String.ofList (text.takeWhile (· ≠ mark)))
        (String.ofList ((text.dropWhile (· ≠ mark)).drop 1))
    else property? (String.ofList text)
where
  splitUnequal : List Char → Option (List Char × List Char)
    | '!' :: '=' :: value => some ([], value)
    | c :: rest => (splitUnequal rest).map fun (name, value) => (c :: name, value)
    | [] => none

end CharacterClass
end Rendezvous.Pattern
