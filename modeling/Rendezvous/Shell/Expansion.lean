import Rendezvous.Shell.State
import Rendezvous.Shell.Sum
import Rendezvous.Shell.Wildcard

/-! What words turn into: values and outputs are put in, and what came from outside of quotes
is split into fields at the separators in force. -/
namespace Rendezvous.Shell

/-- A character of a word, or something between characters. -/
inductive Cell where
  | char (c : Char) (quoted : Bool)
  /-- A character that came out of an unquoted part. -/
  | result (c : Char)
  /-- A quoted part without any characters. -/
  | nothing
  /-- The border between two parameters. -/
  | border
  deriving DecidableEq, Repr

namespace Cell

def ofValue (quoted : Bool) (value : Octets) : List Cell :=
  if quoted then if value.isEmpty then [.nothing] else value.map (.char · true)
  else value.map .result

/-- Values of which each keeps to itself. -/
def ofValues (quoted : Bool) : List Octets → List Cell
  | [] => []
  | [value] => ofValue quoted value
  | value :: rest => ofValue quoted value ++ .border :: ofValues quoted rest

/-- What a word turns into that stands for a value: without quotes, its own characters are
split like those of a value. -/
def asValue (quoted : Bool) (cells : List Cell) : List Cell :=
  if quoted then cells
  else cells.map fun
    | .char c false => .result c
    | cell => cell

/-- The characters of a word that is not split. -/
def text : List Cell → Octets
  | [] => []
  | .char c _ :: rest | .result c :: rest => c :: text rest
  | .nothing :: rest => text rest
  | .border :: rest => ' ' :: text rest

def marked : List Cell → Wildcard.Marked
  | [] => []
  | .char c quoted :: rest => (c, quoted) :: marked rest
  | .result c :: rest => (c, false) :: marked rest
  | .nothing :: rest => marked rest
  | .border :: rest => (' ', true) :: marked rest

/-- Cuts into fields, given the field that is being read and whether a blank has just ended
one. Blanks run together; any other separator stands between two fields. -/
def fieldsFrom (separators : Octets) : Option Octets → Bool → List Cell → List Octets
  | field, _, [] => field.toList
  | field, _, .char c _ :: rest => fieldsFrom separators (some (field.getD [] ++ [c])) false rest
  | field, _, .nothing :: rest => fieldsFrom separators (some (field.getD [])) false rest
  | field, _, .border :: rest => field.toList ++ fieldsFrom separators none false rest
  | field, afterBlank, .result c :: rest =>
    if ¬separators.contains c then
      fieldsFrom separators (some (field.getD [] ++ [c])) false rest
    else if c = ' ' ∨ c = '\t' ∨ c = '\n' then
      field.toList ++ fieldsFrom separators none (field.isSome || afterBlank) rest
    else
      let ended := if afterBlank then [] else [field.getD []]
      ended ++ fieldsFrom separators none false rest

def fields (separators : Octets) (cells : List Cell) : List Octets :=
  fieldsFrom separators none false cells

end Cell

def blankSeparators : Octets := [' ', '\t', '\n']

def State.separators (state : State) : Octets := (state.find? "IFS").getD blankSeparators

def decimal (n : Int) : Octets := (toString n).toList

/-- The letters of the options that are on. -/
def State.options (state : State) : Octets :=
  (if state.needsValues then ['u'] else []) ++ (if state.traces then ['x'] else []) ++
    if state.stopsOnFailure then ['e'] else []

/-- The value of a parameter that has at most one. -/
def State.value? (state : State) (name : String) : Option Octets :=
  match name with
  | "?" => some (decimal state.status)
  | "$" => some (decimal state.leader)
  | "#" => some (decimal state.parameters.length)
  | "-" => some state.options
  | "!" => some ((state.lastJob.map fun process => decimal process).getD [])
  | "0" => some (ofString state.name)
  | _ =>
    match name.toNat? with
    | some index => state.parameters[index - 1]?
    | none => state.find? name

/-- Parameters in a row, with the first separator between them. -/
def State.joined (state : State) : Octets :=
  let separator := match state.find? "IFS" with
    | none => [' ']
    | some separators => separators.take 1
  (state.parameters.intersperse separator).flatten

/-- Ends the shell because of an expression. -/
def refuseSum (text : Octets) (fault : SumFault) : Run α := do
  complain (match fault with
    | .illegalNumber value => "Illegal number: " ++ shown value
    | .divisionByZero => "arithmetic expression: division by zero: \"" ++ shown text ++ "\""
    | .expecting what =>
      "arithmetic expression: expecting " ++ what ++ ": \"" ++ shown text ++ "\"")
  leave 2

/-- Evaluates an expression and makes its assignments. -/
def evaluate (text : Octets) : Run Int := do
  let state ← get
  match (Sum.ofText text).bind (Sum.eval (fun name => (state.value? name).getD []) []) with
  | .error fault => refuseSum text fault
  | .ok (value, set) =>
    for (name, value) in set.reverse do assign name (decimal value)
    return value

/-- Takes what was written to a pipe out of the list of writes. -/
def takePipe (number : Nat) : Run (List (Time × Octets)) := do
  let state ← get
  let (taken, others) := state.world.writes.partition (·.target = .pipe number)
  set { state with world := { state.world with writes := others } }
  let ordered := taken.reverse.mergeSort fun a b => a.time ≤ b.time
  return ordered.map fun write => (write.time, write.chars)

/-- A number that no process, pipe or input has had. -/
def freshNumber : Run Nat := do
  let state ← get
  set { state with world := { state.world with next := state.world.next + 1 } }
  return state.world.next

/-- What a command writes, without the newlines at its end. -/
def outputOf (run : Command → Run Unit) (body : Command) : Run Octets := do
  let pipe ← freshNumber
  let ending ← child id do
    setDescriptor 1 (some (.writing (.pipe pipe)))
    run body
  let written ← takePipe pipe
  match ending.time with
  | none => throw .endless
  | some time => waitUntil time
  modify fun state => { state with outputStatus := some ending.status }
  let chars := (written.flatMap (·.2)).filter (· ≠ '\x00')
  return (chars.reverse.dropWhile (· = '\n')).reverse

/-- What stands for a parameter and the word that goes with it. -/
def useParameter (word : Word → Run (List Cell)) (name : String) (quoted : Bool) :
    Use → Run (List Cell)
  | .value => do
    let state ← get
    if name = "@" ∨ (name = "*" ∧ ¬quoted) then return Cell.ofValues quoted state.parameters
    else if name = "*" then return Cell.ofValue true state.joined
    else
      match state.value? name with
      | some value => return Cell.ofValue quoted value
      | none =>
        if state.needsValues then
          complain (name ++ ": parameter not set")
          leave 2
        else return Cell.ofValue quoted []
  | .length => do
    let value := ((← get).value? name).getD (← get).joined
    return Cell.ofValue quoted (decimal value.length)
  | .checked mark emptyToo inside => do
    let state ← get
    let value := if name = "@" ∨ name = "*" then
        if state.parameters.isEmpty then none else some state.joined
      else state.value? name
    let present := value.filter fun value => ¬(emptyToo ∧ value.isEmpty)
    match present, mark with
    | some value, mark =>
      if mark = '+' then return Cell.asValue quoted (← word inside)
      else return Cell.ofValue quoted value
    | none, '+' => return Cell.ofValue quoted []
    | none, '-' => return Cell.asValue quoted (← word inside)
    | none, '=' =>
      let value := Cell.text (← word inside)
      assign name value
      return Cell.ofValue quoted value
    | none, _ =>
      let given := Cell.text (← word inside)
      complain (name ++ ": " ++
        if ¬inside.isEmpty then shown given
        else if emptyToo then "parameter not set or null" else "parameter not set")
      leave 2
  | .trimmed atEnd longest pattern => do
    let state ← get
    let value := (state.value? name).getD (if name = "@" ∨ name = "*" then state.joined else [])
    let marked := Cell.marked (← word pattern)
    return Cell.ofValue quoted
      (Wildcard.trim (Wildcard.ofMarked (marked.length + 1) marked) atEnd longest value)
  | .malformed => do
    complain "Bad substitution"
    leave 2

/-- Puts into a word what it asks for. Words nest as deep as the fuel reaches. -/
def expand (run : Command → Run Unit) : (fuel : Nat) → Word → Run (List Cell)
  | 0, _ => throw .endless
  | fuel + 1, word => do
    let cells ← word.mapM fun
      | .text chars quoted =>
        return if quoted ∧ chars.isEmpty then [.nothing] else chars.map (.char · quoted)
      | .parameter name use quoted => useParameter (expand run fuel) name quoted use
      | .output body quoted => return Cell.ofValue quoted (← outputOf run body)
      | .arithmetic expression quoted => do
        let text := Cell.text (← expand run fuel expression)
        return Cell.ofValue quoted (decimal (← evaluate text))
    return cells.flatten

/-- How deep words may nest. -/
def nestingLimit : Nat := 200

/-- The text of a word, not split. -/
def textOf (run : Command → Run Unit) (word : Word) : Run Octets :=
  return Cell.text (← expand run nestingLimit word)

/-- The fields of a word. -/
def fieldsOf (run : Command → Run Unit) (word : Word) : Run (List Octets) := do
  let cells ← expand run nestingLimit word
  return Cell.fields (← get).separators cells

/-- The pattern of a word. -/
def patternOf (run : Command → Run Unit) (word : Word) : Run (List Wildcard) := do
  let marked := Cell.marked (← expand run nestingLimit word)
  return Wildcard.ofMarked (marked.length + 1) marked

end Rendezvous.Shell
