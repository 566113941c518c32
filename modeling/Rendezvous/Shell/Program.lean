import Rendezvous.Shell.Condition
import Rendezvous.Shell.Printed

/-! Programs of the system that scripts call by name: small filters, waiting, and files. -/
namespace Rendezvous.Shell

/-- What the system says when it refuses a path. -/
def refusalText : Local.PathFault → String
  | .notFound => "No such file or directory"
  | .denied => "Permission denied"
  | .notDirectory => "Not a directory"
  | .isDirectory => "Is a directory"
  | .holdsNul => "Invalid argument"

/-- A path as seen from where the process was started. -/
def State.locate (state : State) (path : String) : String :=
  if path.startsWith "/" ∨ state.directory = "" then path
  else if state.directory.endsWith "/" then state.directory ++ path
  else state.directory ++ "/" ++ path

def contentOf (path : Octets) : Run (Except Local.PathFault Octets) := do
  let state ← get
  return (state.world.files.read (state.locate (shown path))).map ofBytes

def changeFiles (path : Octets)
    (change : Local.Files → String → Except Local.PathFault Local.Files) :
    Run (Except Local.PathFault Unit) := do
  let state ← get
  match change state.world.files (state.locate (shown path)) with
  | .ok files =>
    set { state with world := { state.world with files := files } }
    return .ok ()
  | .error fault => return .error fault

namespace Program

/-- Complains under a program's own name and fails. -/
def fail (name text : String) : Run Unit := do
  write 2 (ofString (name ++ ": " ++ text ++ "\n"))
  setStatus 1

/-- Goes through the named files, a hyphen being what is read, or through that alone. -/
def forFiles (name : String) (complaint : String → String → String) (paths : List Octets)
    (use : Octets → Run Unit) : Run Unit := do
  for path in if paths.isEmpty then [['-']] else paths do
    if path = ['-'] then use (← readText)
    else match ← contentOf path with
      | .ok content => use content
      | .error fault => fail name (complaint (shown path) (refusalText fault))

def afterColon (path text : String) : String := path ++ ": " ++ text

def inQuotes (path text : String) : String :=
  "cannot open '" ++ path ++ "' for reading: " ++ text

/-- Lines with their ends. -/
def linesFrom (line : Octets) : Octets → List Octets
  | [] => if line.isEmpty then [] else [line]
  | c :: rest =>
    if c = '\n' then (line ++ [c]) :: linesFrom [] rest else linesFrom (line ++ [c]) rest

def lines (text : Octets) : List Octets := linesFrom [] text

/-- Lines without their ends. -/
def bareLines (text : Octets) : List Octets := (lines text).map fun line => line.filter (· ≠ '\n')

def cat (arguments : List Octets) : Run Unit :=
  if arguments.isEmpty then passOn id
  else forFiles "cat" afterColon (arguments.filter (· ≠ ['-', 'u'])) (write 1)

/-- A count and whether it is one of characters, from the options of `head` and `tail`. -/
def countOption : List Octets → Nat × Bool × List Octets
  | ['-', 'n'] :: count :: rest => (Sum.inBase 10 (count.filter Char.isDigit), false, rest)
  | ['-', 'c'] :: count :: rest => (Sum.inBase 10 (count.filter Char.isDigit), true, rest)
  | ('-' :: 'n' :: count) :: rest => (Sum.inBase 10 (count.filter Char.isDigit), false, rest)
  | ('-' :: 'c' :: count) :: rest => (Sum.inBase 10 (count.filter Char.isDigit), true, rest)
  | ('-' :: c :: count) :: rest =>
    if c.isDigit then (Sum.inBase 10 (c :: count), false, rest) else (10, false, rest)
  | rest => (10, false, rest)

def headLines : Nat → Run Unit
  | 0 => return
  | count + 1 => do
    let (line, ended) ← readLine pieceLimit
    if ended then
      write 1 (line ++ ['\n'])
      headLines count
    else write 1 line

def head (arguments : List Octets) : Run Unit := do
  let (count, ofCharacters, paths) := countOption arguments
  if paths.isEmpty then
    if ofCharacters then write 1 (← readCount pieceLimit count) else headLines count
  else if ofCharacters ∧ paths = [ofString "/dev/zero"] then write 1 (List.replicate count '\x00')
  else forFiles "head" inQuotes paths fun text =>
    write 1 (if ofCharacters then text.take count else ((lines text).take count).flatten)

def tail (arguments : List Octets) : Run Unit := do
  let (count, ofCharacters, paths) := countOption arguments
  forFiles "tail" inQuotes paths fun text =>
    let last {α : Type} (list : List α) : List α := list.drop (list.length - count)
    write 1 (if ofCharacters then last text else (last (lines text)).flatten)

/-- The characters of a set, with ranges and escapes written out. -/
def setChars : (fuel : Nat) → Octets → Octets
  | 0, _ => []
  | _ + 1, [] => []
  | fuel + 1, '\\' :: c :: rest =>
    if Printed.isOctal c then
      let number := ((c :: rest).take 3).takeWhile Printed.isOctal
      Printed.octal number :: setChars fuel ((c :: rest).drop number.length)
    else (Printed.escape? c).getD c :: setChars fuel rest
  | fuel + 1, low :: '-' :: high :: rest =>
    ((List.range (high.toNat + 1 - low.toNat)).map fun i => Char.ofNat (low.toNat + i)) ++
      setChars fuel rest
  | fuel + 1, c :: rest => c :: setChars fuel rest

def tr (arguments : List Octets) : Run Unit :=
  let chars (set : Octets) : Octets := setChars (set.length + 1) set
  match arguments with
  | [['-', 'd'], set] => passOn fun text => text.filter (!(chars set).contains ·)
  | [first, second] =>
    let (old, new) := (chars first, chars second)
    passOn fun text => text.map fun c =>
      match old.idxOf? c with
      | some index => (new[index]?.or new.getLast?).getD c
      | none => c
  | _ => fail "tr" "missing operand"

/-- The words of a text between blanks. -/
def wordCount (text : Octets) : Nat :=
  (Cell.fields blankSeparators (text.map .result)).length

def wc (arguments : List Octets) : Run Unit := do
  let flags := (arguments.filter (·.head? = some '-')).flatMap (·.drop 1)
  let paths := arguments.filter (·.head? ≠ some '-')
  forFiles "wc" afterColon paths fun text => do
    let shows (flag : Char) : Bool := flags.isEmpty || flags.contains flag
    let counts := (if shows 'l' then [text.count '\n'] else []) ++
      (if shows 'w' then [wordCount text] else []) ++
      if shows 'c' then [text.length] else []
    let width := if 1 < counts.length ∧ paths.isEmpty then 7 else 0
    let shown := counts.map fun count =>
      List.replicate (width - (Nat.toDigits 10 count).length) ' ' ++ Nat.toDigits 10 count
    let name := if paths.length = 1 then ' ' :: paths.flatten else []
    write 1 ((shown.intersperse [' ']).flatten ++ name ++ ['\n'])

def seq (arguments : List Octets) : Run Unit := do
  let numbers := arguments.filterMap Condition.number?
  if numbers.length < arguments.length then fail "seq" "invalid floating point argument"
  else
    let (first, step, last) : Int × Int × Int := match numbers with
      | [last] => (1, 1, last)
      | [first, last] => (first, 1, last)
      | [first, step, last] => (first, step, last)
      | _ => (1, 1, 0)
    let count := if step = 0 then 0 else ((last - first).fdiv step + 1).toNat
    write 1 ((List.range (min count pieceLimit)).flatMap fun (i : Nat) =>
      decimal (first + i * step) ++ ['\n'])

/-- As many lines as fit into what any reader here takes. -/
def yes (arguments : List Octets) : Run Unit :=
  let line := if arguments.isEmpty then ['y'] else (arguments.intersperse [' ']).flatten
  write 1 (List.replicate 20000 (line ++ ['\n'])).flatten

/-- Whether two lines are in the order of their octets. -/
def inOrder (a b : Octets) : Bool := !b.lex a fun x y => x < y

def sort (arguments : List Octets) : Run Unit := do
  let flags := (arguments.filter (·.head? = some '-')).flatMap (·.drop 1)
  forFiles "sort" inQuotes (arguments.filter (·.head? ≠ some '-')) fun text => do
    let number (line : Octets) : Int := (Condition.number? (line.takeWhile (· ≠ ' '))).getD 0
    let order (a b : Octets) : Bool :=
      if flags.contains 'n' then number a < number b || (number a = number b && inOrder a b)
      else inOrder a b
    let sorted := (bareLines text).mergeSort order
    let sorted := if flags.contains 'r' then sorted.reverse else sorted
    let sorted := if flags.contains 'u' then sorted.eraseReps else sorted
    write 1 (sorted.flatMap (· ++ ['\n']))

def uniq (arguments : List Octets) : Run Unit :=
  forFiles "uniq" afterColon arguments fun text =>
    write 1 ((bareLines text).eraseReps.flatMap (· ++ ['\n']))

def rev (arguments : List Octets) : Run Unit :=
  forFiles "rev" inQuotes arguments fun text =>
    write 1 ((lines text).flatMap fun line =>
      (line.filter (· ≠ '\n')).reverse ++ line.filter (· = '\n'))

def tee (arguments : List Octets) : Run Unit := do
  let text ← readText
  write 1 text
  for path in arguments do
    match ← changeFiles path Local.Files.openForWriting with
    | .ok _ => writeTo (.file ((← get).locate (shown path))) text
    | .error fault => fail "tee" (afterColon (shown path) (refusalText fault))

/-- How long a text of digits, a point and a unit lasts. -/
def duration? (text : Octets) : Option Time :=
  let whole := text.takeWhile Char.isDigit
  let rest := text.dropWhile Char.isDigit
  let (fraction, unit) : Octets × Octets := match rest with
    | '.' :: rest => (rest.takeWhile Char.isDigit, rest.dropWhile Char.isDigit)
    | rest => ([], rest)
  let factor? : Option Nat := match unit with
    | [] | ['s'] => some 1
    | ['m'] => some 60
    | ['h'] => some 3600
    | ['d'] => some 86400
    | _ => none
  if whole.isEmpty ∧ fraction.isEmpty then none
  else
    let millionths := Sum.inBase 10 ((fraction ++ List.replicate 6 '0').take 6)
    factor?.map fun factor => factor * (Sum.inBase 10 whole * second + millionths)

/-- Where to find more about a program. -/
def hint (name : String) : Run Unit :=
  write 2 (ofString ("Try '" ++ name ++ " --help' for more information.\n"))

def sleep (arguments : List Octets) : Run Unit := do
  if arguments.isEmpty then
    fail "sleep" "missing operand"
    hint "sleep"
  else if arguments = [ofString "infinity"] then throw .endless
  else
    match arguments.find? fun argument => (duration? argument).isNone with
    | some bad =>
      fail "sleep" ("invalid time interval '" ++ shown bad ++ "'")
      hint "sleep"
    | none => waitUntil ((← get).clock + (arguments.filterMap duration?).foldl (· + ·) 0)

def touch (arguments : List Octets) : Run Unit := do
  for path in arguments do
    match ← changeFiles path Local.Files.openForAppending with
    | .ok _ => pure ()
    | .error .isDirectory => pure ()
    | .error fault =>
      fail "touch" ("cannot touch '" ++ shown path ++ "': " ++ refusalText fault)

def mkdir (arguments : List Octets) : Run Unit := do
  let parents := arguments.contains ['-', 'p']
  for path in arguments.filter (·.head? ≠ some '-') do
    let state ← get
    let refuse (text : String) : Run Unit :=
      fail "mkdir" ("cannot create directory '" ++ shown path ++ "': " ++ text)
    let place := state.locate (shown path)
    if state.world.files.isThere place then
      unless parents ∧ state.world.files.isDirectory place do refuse "File exists"
    else
      let place := if place.endsWith "/" then String.ofList place.toList.dropLast else place
      let up := String.ofList ((place.toList.reverse.dropWhile (· ≠ '/')).drop 1).reverse
      if parents ∨ up = "" ∨ state.world.files.isDirectory up then
        match ← changeFiles path Local.Files.makeDirectory with
        | .ok _ => pure ()
        | .error fault => refuse (refusalText fault)
      else refuse (refusalText .notFound)

def rm (arguments : List Octets) : Run Unit := do
  let flags := (arguments.filter (·.head? = some '-')).flatMap (·.drop 1)
  for path in arguments.filter (·.head? ≠ some '-') do
    let state ← get
    if state.world.files.isDirectory (state.locate (shown path)) ∧ ¬flags.contains 'r' then
      fail "rm" ("cannot remove '" ++ shown path ++ "': " ++ refusalText .isDirectory)
    else
      match ← changeFiles path Local.Files.remove with
      | .ok _ => pure ()
      | .error fault =>
        unless flags.contains 'f' do
          fail "rm" ("cannot remove '" ++ shown path ++ "': " ++ refusalText fault)

def basename (arguments : List Octets) : Run Unit := do
  let path := arguments.headD []
  let name := ((path.reverse.dropWhile (· = '/')).takeWhile (· ≠ '/')).reverse
  let suffix := (arguments.drop 1).headD []
  let name := if suffix.isSuffixOf name ∧ suffix ≠ name then
    name.take (name.length - suffix.length) else name
  write 1 (name ++ ['\n'])

def dirname (arguments : List Octets) : Run Unit := do
  let path := ((arguments.headD []).reverse.dropWhile (· = '/')).reverse
  let up := ((path.reverse.dropWhile (· ≠ '/')).dropWhile (· = '/')).reverse
  let start : Octets := if path.head? = some '/' then ['/'] else ['.']
  write 1 ((if up.isEmpty then start else up) ++ ['\n'])

/-- Programs by name, those left out that start others. -/
def all : List (String × (List Octets → Run Unit)) := [
  ("cat", cat), ("head", head), ("tail", tail), ("tr", tr), ("wc", wc), ("seq", seq),
  ("yes", yes), ("sort", sort), ("uniq", uniq), ("rev", rev), ("tee", tee), ("sleep", sleep),
  ("touch", touch), ("mkdir", mkdir), ("rm", rm), ("basename", basename), ("dirname", dirname)]

end Program
end Rendezvous.Shell
