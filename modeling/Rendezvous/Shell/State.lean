import Rendezvous.Local.Files
import Rendezvous.Shell.Script

/-! What a shell remembers and what it shares with the processes it starts. Processes take
turns: each runs to its end when it is started, on a clock of its own, and what it writes is
kept with the time of writing, so that the order of all writes can be told afterwards. -/
namespace Rendezvous.Shell

open Text.Utf8 (Bytes)

def ofBytes (bytes : Bytes) : Octets := bytes.map fun byte => Char.ofNat byte.toNat

def toBytes (chars : Octets) : Bytes := chars.map fun c => UInt8.ofNat c.toNat

def ofString (text : String) : Octets := ofBytes (Text.Utf8.encode text)

/-- Microseconds. -/
abbrev Time := Nat

def second : Time := 1000000

/-- How long a process takes to start that nobody waits for at once, and a program. -/
def startTime : Time := 1000

inductive Stream where
  | output
  | errors
  deriving DecidableEq, Repr

/-- Where something is written to. -/
inductive Target where
  | stream (stream : Stream)
  | pipe (number : Nat)
  | file (path : String)
  | nowhere
  deriving DecidableEq, Repr

/-- Where something is read from. -/
inductive Source where
  /-- What is left of numbered input. -/
  | numbered (number : Nat)
  | empty
  | zeros
  deriving DecidableEq, Repr

inductive Channel where
  | reading (source : Source)
  | writing (target : Target)
  deriving DecidableEq, Repr

/-- One write: by which process, when and where it took place, and what was written. -/
structure Write where
  process : Nat
  time : Time
  target : Target
  chars : Octets

/-- Input that has been written already, and when its writers are all gone. -/
structure Input where
  arriving : List (Time × Octets)
  closing : Time

/-- What all processes share. -/
structure World where
  files : Local.Files
  /-- A directory whose files are programs, found before those of the system. -/
  ownPrograms : Option String := none
  inputs : List (Nat × Input) := []
  /-- All writes, the latest first. -/
  writes : List Write := []
  /-- Signals that were sent: to which process, which one and when. -/
  signals : List (Nat × Nat × Time) := []
  /-- The number of the next process, pipe or input. -/
  next : Nat := 1000
  /-- How many commands have been run. -/
  commands : Nat := 0

/-- How a process ended, and when, if it ever did. -/
structure Ending where
  process : Nat
  status : Nat
  time : Option Time
  signal : Option Nat := none

structure State where
  world : World
  /-- What the shell calls itself. -/
  name : String
  process : Nat
  parent : Nat
  /-- The shell that this process is a part of. -/
  leader : Nat
  line : Nat := 1
  status : Nat := 0
  /-- The status of the last command whose output was put into a word. -/
  outputStatus : Option Nat := none
  clock : Time := 0
  parameters : List Octets := []
  values : List (String × Octets) := []
  /-- Variables that programs get to see. -/
  exported : List String := []
  fixed : List String := []
  functions : List (String × Command) := []
  /-- Values that variables go back to when the running function ends, if one is running. -/
  locals : Option (List (String × Option Octets)) := none
  descriptors : List (Nat × Channel)
  lastJob : Option Nat := none
  /-- Processes in the background. -/
  jobs : List Ending := []
  traps : List (Nat × Octets) := []
  directory : String := ""
  stopsOnFailure : Bool := false
  needsValues : Bool := false
  traces : Bool := false
  /-- Whether a failure is only looked at, and so stops nothing. -/
  tested : Bool := false
  /-- How many loops are under way in the running function. -/
  loops : Nat := 0

/-- How a command can end other than by coming to its end. -/
inductive Leave where
  | breaks (levels : Nat)
  | continues (levels : Nat)
  | returns
  | exits
  | killed (signal : Nat)
  /-- It would go on for longer than anyone waits. -/
  | endless
  deriving DecidableEq, Repr

/-- Actions of a shell. What has been done stays done, however they end. -/
abbrev Run := ExceptT Leave (StateM State)

def setStatus (status : Nat) : Run Unit := modify fun state => { state with status := status }

/-- Ends the process. -/
def leave (status : Nat) : Run α := do
  setStatus status
  throw .exits

def channel? (descriptor : Nat) : Run (Option Channel) :=
  return (← get).descriptors.lookup descriptor

def setDescriptor (descriptor : Nat) (channel : Option Channel) : Run Unit :=
  modify fun state =>
    let others := state.descriptors.filter (·.1 ≠ descriptor)
    { state with descriptors := match channel with
      | some channel => (descriptor, channel) :: others
      | none => others }

/-- Adds to a file that was opened before. -/
def addToFile (path : String) (chars : Octets) (world : World) : World :=
  match world.files.append path (toBytes chars) with
  | .ok files => { world with files := files }
  | .error _ => world

def writeTo (target : Target) (chars : Octets) : Run Unit :=
  modify fun state =>
    let world := match target with
      | .file path => addToFile path chars state.world
      | _ => state.world
    let write := ⟨state.process, state.clock, target, chars⟩
    { state with world := { world with writes := write :: world.writes } }

/-- Writes through a descriptor. A closed one takes nothing. -/
def write (descriptor : Nat) (chars : Octets) : Run Unit := do
  match ← channel? descriptor with
  | some (.writing target) => if chars.isEmpty then return else writeTo target chars
  | _ => return

def print (text : String) : Run Unit := write 1 (ofString text)

/-- Complains about the line that is being run. -/
def complain (text : String) : Run Unit := do
  let state ← get
  write 2 (ofString (state.name ++ ": " ++ toString state.line ++ ": " ++ text ++ "\n"))

/-- The variable's value. -/
def State.find? (state : State) (name : String) : Option Octets := state.values.lookup name

def State.assign (name : String) (value : Octets) (state : State) : State :=
  { state with values := (name, value) :: state.values.filter (·.1 ≠ name) }

def State.unset (name : String) (state : State) : State :=
  { state with
    values := state.values.filter (·.1 ≠ name)
    exported := state.exported.filter (· ≠ name) }

/-- The octets as a text, for names and messages. -/
def shown (chars : Octets) : String := Text.Utf8.decodeLossy (toBytes chars)

/-- Sets a variable. A fixed one cannot be set, and the attempt ends the shell. -/
def assign (name : String) (value : Octets) : Run Unit := do
  if (← get).fixed.contains name then
    complain (name ++ ": is read only")
    leave 2
  else modify (State.assign name value)

/-! Reading -/

/-- Waits for a time that may be in the past already. -/
def waitUntil (time : Time) : Run Unit :=
  modify fun state => { state with clock := max state.clock time }

def source : Run Source := return match ← channel? 0 with
  | some (.reading source) => source
  | _ => .empty

def input (number : Nat) : Run Input :=
  return ((← get).world.inputs.lookup number).getD ⟨[], 0⟩

def setInput (number : Nat) (input : Input) : Run Unit :=
  modify fun state => { state with world := { state.world with
    inputs := (number, input) :: state.world.inputs.filter (·.1 ≠ number) } }

/-- The next piece of what a program reads, as it was written; nothing at the end. -/
def readPiece : Run (Option Octets) := do
  match ← source with
  | .empty => return none
  | .zeros => return some (List.replicate 4096 '\x00')
  | .numbered number =>
    let input ← input number
    match input.arriving with
    | (time, chars) :: rest =>
      setInput number { input with arriving := rest }
      waitUntil time
      return some chars
    | [] =>
      waitUntil input.closing
      return none

/-- Puts back what was read too much. -/
def putBack (chars : Octets) : Run Unit := do
  match ← source with
  | .numbered number =>
    let input ← input number
    unless chars.isEmpty do
      setInput number { input with arriving := ((← get).clock, chars) :: input.arriving }
  | _ => return

/-- How many pieces a program reads before it is taken to read for ever. -/
def pieceLimit : Nat := 100000

/-- All that is left of the input. -/
def readAll : Run Input := do
  match ← source with
  | .empty => return ⟨[], 0⟩
  | .zeros => throw .endless
  | .numbered number =>
    let left ← input number
    setInput number { left with arriving := [] }
    return left

/-- All that is left of the input, at once. -/
def readText : Run Octets := do
  let left ← readAll
  waitUntil left.closing
  return left.arriving.flatMap (·.2)

/-- Writes what is read as it arrives, altered. -/
def passOn (alter : Octets → Octets) : Run Unit := do
  let left ← readAll
  for (time, chars) in left.arriving do
    waitUntil time
    write 1 (alter chars)
  waitUntil left.closing

/-- Reads up to a number of characters. -/
def readCount : (fuel : Nat) → (count : Nat) → Run Octets
  | 0, _ => throw .endless
  | fuel + 1, count => do
    if count = 0 then return []
    match ← readPiece with
    | none => return []
    | some piece =>
      putBack (piece.drop count)
      return piece.take count ++ (← readCount fuel (count - piece.length))

/-- Reads a line, and tells whether it had an end. -/
def readLine : (fuel : Nat) → Run (Octets × Bool)
  | 0 => throw .endless
  | fuel + 1 => do
    match ← readPiece with
    | none => return ([], false)
    | some piece =>
      match piece.dropWhile (· ≠ '\n') with
      | [] =>
        let (rest, ended) ← readLine fuel
        return (piece ++ rest, ended)
      | _ :: rest =>
        putBack rest
        return (piece.takeWhile (· ≠ '\n'), true)

/-! Processes -/

/-- The status by which a shell knows that a signal ended a process. -/
def signalStatus (signal : Nat) : Nat := 128 + signal

/-- Runs a process of its own to its end. It starts as a copy, altered, and what it changes
in itself is lost when it ends. -/
def child (alter : State → State) (body : Run Unit) : Run Ending := do
  let state ← get
  let number := state.world.next
  let (result, last) := body.run (alter { state with
    process := number, parent := state.process, jobs := []
    world := { state.world with next := number + 1 } })
  set { state with world := last.world }
  return match result with
    | .error (.killed signal) => ⟨number, signalStatus signal, some last.clock, some signal⟩
    | .error .endless => ⟨number, 0, none, none⟩
    | _ => ⟨number, last.status, some last.clock, none⟩

/-- The first signal that has reached the process by now, if any: its number and when it was
sent. -/
def State.pending? (state : State) : Option (Nat × Time) :=
  (state.world.signals.reverse.find? fun sent =>
    sent.1 = state.process ∧ sent.2.2 ≤ state.clock).map (·.2)

def State.dropSignal (signal : Nat × Time) (state : State) : State :=
  { state with world := { state.world with
    signals := state.world.signals.erase (state.process, signal.1, signal.2) } }

end Rendezvous.Shell
