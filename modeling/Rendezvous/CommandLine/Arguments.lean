import Rendezvous.CommandLine.Invocation

/-! Reading the arguments. They are taken from left to right, first those of the program and,
behind the name of a command, those of the command; the first that is refused, or that asks
for help or for the version, ends the reading. A value that stands in an argument of its own
is looked at only when the next argument of the same level, or the end, has been reached. -/
namespace Rendezvous.CommandLine

/-- Where the arguments stand: behind a command, or before any. -/
abbrev Level := Option Verb

/-- What takes a value. -/
inductive Slot where
  | config
  | family
  | chunkLength
  | path
  deriving DecidableEq, Repr

/-- A slot as it is shown to users. -/
def Slot.shown : Slot → String
  | .config => "--config <CONFIG>"
  | .family => "--family <FAMILY>"
  | .chunkLength => "--chunk-len <CHUNK_LEN>"
  | .path => "<PATH>"

inductive Switch where
  | takes (slot : Slot)
  | logFile
  | help
  | version
  deriving DecidableEq, Repr

/-- The options that are known by a whole word. -/
def Switch.ofWord? (level : Level) (word : String) : Option Switch :=
  match word, level with
  | "config", _ => some (.takes .config)
  | "log-file", _ => some .logFile
  | "help", _ => some .help
  | "version", none => some .version
  | "family", some .bootstrap => some (.takes .family)
  | "chunk-len", some .coverage => some (.takes .chunkLength)
  | _, _ => none

/-- The options that are known by a letter. -/
def Switch.ofLetter? (level : Level) (letter : Char) : Option Switch :=
  match letter, level with
  | 'h', _ => some .help
  | 'V', none => some .version
  | _, _ => none

/-- What an argument looks like, wherever it stands. -/
inductive Shape where
  /-- Two dashes alone: all that follows stands for itself. -/
  | divider
  /-- A word behind two dashes, with a value if an equals sign follows. -/
  | word (name : String) (value : Option String)
  /-- Letters behind one dash. No known letter lets another one be read. -/
  | letter (first : Char)
  | plain
  deriving DecidableEq, Repr

def Shape.ofText (text : String) : Shape :=
  match text.toList with
  | ['-', '-'] => .divider
  | '-' :: '-' :: rest =>
    let name := rest.takeWhile (· ≠ '=')
    .word (String.ofList name) (match rest.drop name.length with
      | [] => none
      | _ :: value => some (String.ofList value))
  | '-' :: first :: _ => .letter first
  | _ => .plain

/-! Values -/

def family? (text : String) : Option Family :=
  match text with
  | "ui" => some .ui
  | "perf" => some .perf
  | _ => none

/-- The number that decimal digits stand for. -/
def natural? (digits : List Char) : Option Nat :=
  if digits.isEmpty ∨ !digits.all Char.isDigit then none
  else some (digits.foldl (fun n c => 10 * n + (c.toNat - '0'.toNat)) 0)

/-- Digits, with a plus sign or without, of a number that fits a word. -/
def word64? (text : String) : Option UInt64 :=
  let digits := match text.toList with
    | '+' :: rest => rest
    | chars => chars
  (natural? digits).bind fun n => if n < Nat.pow 2 64 then some (.ofNat n) else none

/-- A path may be anything but empty. -/
def path? (text : String) : Option String := if text = "" then none else some text

/-- What one level has been given. -/
structure Given where
  config : Option String := none
  logFile : Bool := false
  family : Option Family := none
  chunkLength : Option UInt64 := none
  path : Option String := none
  deriving Repr

def refuse (fault : Misuse) : Except Stop α := .error (.misuse fault)

/-- The value that a slot holds after a text was given for it. It has to have been empty. -/
def Slot.fill (slot : Slot) (text : String) (value old : Option α) : Except Stop (Option α) :=
  match old, value with
  | some _, _ => refuse (.repeated slot.shown)
  | none, none => refuse (.badValue slot.shown text)
  | none, some value => .ok (some value)

def Given.take (given : Given) (slot : Slot) (text : String) : Except Stop Given := do
  match slot with
  | .config => return { given with config := ← slot.fill text (path? text) given.config }
  | .family => return { given with family := ← slot.fill text (family? text) given.family }
  | .chunkLength =>
    return { given with chunkLength := ← slot.fill text (word64? text) given.chunkLength }
  | .path => return { given with path := ← slot.fill text (path? text) given.path }

/-! Reading -/

/-- The reading of one level. -/
structure Reading where
  given : Given := {}
  /-- A slot whose value is still to come, or is there and has not been looked at. -/
  pending : Option (Slot × Option String) := none
  /-- Whether all that follows stands for itself. -/
  literal : Bool := false

namespace Reading

/-- Whether the next argument is taken for a value if it looks like one. -/
def waits (reading : Reading) : Bool :=
  match reading.pending with
  | some (_, none) => true
  | _ => false

/-- Looks at the pending value. -/
def settle (reading : Reading) : Except Stop Reading :=
  match reading.pending with
  | none => .ok reading
  | some (slot, none) => refuse (.noValue slot.shown)
  | some (slot, some text) => do
    return { reading with given := ← reading.given.take slot text, pending := none }

/-- An argument that belongs to no option. -/
def place (level : Level) (argument : String) (reading : Reading) : Except Stop Reading := do
  let reading ← reading.settle
  let takesPath := level = some .coverage ∨ level = some .mockList
  if level = none then refuse (.unknownCommand argument)
  else if takesPath ∧ reading.given.path = none then
    return { reading with pending := some (.path, some argument) }
  else refuse (.unknownArgument argument)

/-- The topic of the help that is asked for at a level. -/
def topic : Level → Topic
  | none => .program
  | some verb => .command verb

/-- An option behind whose name no value stands. -/
def turn (level : Level) (long : Bool) (switch : Switch) (reading : Reading) :
    Except Stop Reading := do
  let reading ← reading.settle
  match switch with
  | .takes slot => return { reading with pending := some (slot, none) }
  | .logFile =>
    if reading.given.logFile then refuse (.repeated "--log-file")
    else return { reading with given := { reading.given with logFile := true } }
  | .help => .error (.page ⟨topic level, long⟩)
  | .version => .error .version

/-- One argument more. -/
def step (level : Level) (argument : String) (reading : Reading) : Except Stop Reading :=
  if reading.literal then reading.place level argument
  else
    match Shape.ofText argument with
    | .divider => .ok { reading with literal := true }
    | .word name value =>
      match Switch.ofWord? level name, value with
      | none, _ => refuse (.unknownArgument argument)
      | some (.takes slot), some text => do
        let reading ← reading.settle
        return { reading with given := ← reading.given.take slot text }
      | some _, some _ => refuse (.unwantedValue ("--" ++ name))
      | some switch, none => reading.turn level true switch
    | .letter first =>
      match Switch.ofLetter? level first with
      | none => refuse (.unknownArgument argument)
      | some switch => reading.turn level false switch
    | .plain =>
      match reading.pending with
      | some (slot, none) => .ok { reading with pending := some (slot, some argument) }
      | _ => reading.place level argument

end Reading

/-- The arguments behind the name of a command. -/
def readCommand (verb : Verb) : List String → Reading → Except Stop Given
  | [], reading => do return (← reading.settle).given
  | argument :: rest, reading => do readCommand verb rest (← reading.step (some verb) argument)

/-- A command with what it was given. -/
def Given.command (given : Given) : Verb → Except Stop Command
  | .bootstrap => .ok (.bootstrap (given.family.getD .ui))
  | .token => .ok .token
  | .coverage => .ok (.coverage given.path given.chunkLength)
  | .mockList =>
    match given.path with
    | some path => .ok (.mockList path)
    | none => refuse .noPath

/-- The command that asks for help. -/
def helpName : String := "help"

/-- The names behind the command that asks for help. Help itself can be asked about, and
nothing has commands of its own. -/
def readHelp : List String → Except Stop α
  | [] => .error (.page ⟨.program, true⟩)
  | name :: rest =>
    let topic := if name = helpName then some Topic.help else (Verb.find? name).map .command
    match topic, rest with
    | none, _ => refuse (.unknownCommand name)
    | some topic, [] => .error (.page ⟨topic, true⟩)
    | some _, other :: _ => refuse (.unknownCommand other)

/-- The arguments from the first one on. What a command is given goes before what the program
was given ahead of it. -/
def readProgram : List String → Reading → Except Stop Invocation
  | [], reading => do
    let _ ← reading.settle
    refuse .noCommand
  | argument :: rest, reading =>
    let free := !reading.literal && !reading.waits
    if free ∧ argument = helpName then readHelp rest
    else match (if free then Verb.find? argument else none) with
      | none => do readProgram rest (← reading.step none argument)
      | some verb => do
        let inner ← readCommand verb rest {}
        let command ← inner.command verb
        let outer := (← reading.settle).given
        return ⟨inner.config <|> outer.config, inner.logFile || outer.logFile, command⟩

/-- What the arguments ask for. -/
def Invocation.ofArguments (arguments : List String) : Except Stop Invocation :=
  readProgram arguments {}

end Rendezvous.CommandLine
