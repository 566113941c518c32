import Rendezvous.Host
import Rendezvous.Local.Locations
import Rendezvous.Local.Parameters
import Rendezvous.Shell.Execution

/-! A shell as the place where commands are given to: it is started with the command, its end
is waited for up to a limit, and what it and its processes write is collected until shortly
after its end. -/
namespace Rendezvous.Shell

open Text.Utf8 (Bytes)

/-! Collecting -/

/-- A piece of output that has reached the collector. -/
structure Arrival where
  stream : Stream
  time : Time
  bytes : Bytes
  deriving Repr

/-- What has arrived up to a deadline, in the order of arrival. -/
def collect (deadline : Time) (arrivals : List Arrival) : Bytes :=
  (arrivals.takeWhile fun arrival => arrival.time ≤ deadline).flatMap Arrival.bytes

/-- How long output is still collected after the shell has ended. -/
def grace : Time := 200000

/-- The writes to the two streams as they arrive: by time, and in order where times agree. -/
def arrivals (writes : List Write) : List Arrival :=
  let arriving := writes.reverse.filterMap fun write =>
    match write.target with
    | .stream stream => some (⟨stream, write.time, toBytes write.chars⟩ : Arrival)
    | _ => none
  arriving.mergeSort fun a b => a.time ≤ b.time

/-! The system around a shell -/

/-- Directories that every system has. -/
def systemDirectories : List (List String) := [["bin"], ["boot"], ["dev"], ["etc"], ["home"],
  ["lib"], ["media"], ["mnt"], ["opt"], ["proc"], ["root"], ["run"], ["sbin"], ["srv"], ["sys"],
  ["tmp"], ["usr"], ["usr", "bin"], ["usr", "lib"], ["usr", "local"], ["usr", "local", "bin"],
  ["usr", "sbin"], ["usr", "share"], ["var"], ["var", "log"], ["var", "tmp"]]

/-- Files that every system has. -/
def systemFiles : List (List String) := [["dev", "null"], ["dev", "zero"], ["etc", "group"],
  ["etc", "hostname"], ["etc", "hosts"], ["etc", "passwd"]]

/-- Adds the directories, files and programs of the system to a file tree. -/
def withSystem (files : Local.Files) : Local.Files :=
  let names := Program.all.map (·.1) ++ shellNames ++ startingNames ++ doubledNames
  let programs := names.flatMap fun name => [["bin", name], ["usr", "bin", name]]
  let place (names : List String) : List String := Local.Files.root :: names
  { entries := files.entries ++ (systemDirectories.map fun names => (place names, .directory)) ++
      ((systemFiles ++ programs).map fun names => (place names, .file [])) }

/-- Where a shell is started. -/
structure Surroundings where
  files : Local.Files := {}
  /-- A directory of programs that go before those of the system. -/
  ownPrograms : Option String := none
  environ : Local.Variables := []

/-- The number of the process that starts the shell. -/
def starterNumber : Nat := 999

/-- The state in which the shell is started. -/
def Surroundings.start (surroundings : Surroundings) : State :=
  { world := { files := withSystem surroundings.files, ownPrograms := surroundings.ownPrograms }
    name := "", process := starterNumber, parent := 0, leader := starterNumber
    values := surroundings.environ.map fun (name, value) => (name, ofBytes value)
    exported := surroundings.environ.map (·.1)
    descriptors := [(0, .reading .empty), (1, .writing (.stream .output)),
      (2, .writing (.stream .errors))] }

/-- A command that has run: how the shell ended, and what is there afterwards. -/
structure Finished where
  ending : Ending
  world : World

/-- Starts a program with a command as an argument and lets it run to its end. -/
def runCommand (surroundings : Surroundings) (shell command : String) :
    Except Local.PathFault Finished := do
  let start := surroundings.start
  if shell = "" then throw .notFound
  let found ← findProgram start shell
  let (result, last) := (child id (runProgram (execute commandLimit) programLimit found shell
    [['-', 'c'], ofString command])).run start
  match result with
  | .ok ending => return ⟨ending, last.world⟩
  | .error _ => return ⟨⟨starterNumber, 0, none, none⟩, last.world⟩

/-- What the exit code is said to be when a signal has ended the shell. -/
def killedCode : Int32 := -1

/-- Why a shell or a command that holds NUL cannot be given to the system. -/
def nulFound : String := "nul byte found in provided data"

/-- Runs a command in a shell. It has to end before the limit, which is in seconds. -/
def delegate (surroundings : Surroundings) (shell command : String) (timeoutUnits : UInt32) :
    Except Error (CommandResult × Local.Files) :=
  if (shell ++ command).toList.contains '\x00' then .error (.io nulFound)
  else
    match runCommand surroundings shell command with
    | .error fault => .error (.io fault.message)
    | .ok finished =>
      match finished.ending.time with
      | none => .error (.timeout timeoutUnits.toUInt64)
      | some time =>
        if time < timeoutUnits.toNat * second then
          let output := collect (time + grace) (arrivals finished.world.writes)
          let code := match finished.ending.signal with
            | some _ => killedCode
            | none => Int32.ofNat finished.ending.status
          .ok (⟨Text.Utf8.decodeLossy output, code⟩, finished.world.files)
        else .error (.timeout timeoutUnits.toUInt64)

/-- The shell that is found first when the programs of the system are searched. -/
def foundShell : String := "/usr/bin/sh"

/-- The shell that is found first when all programs are searched. -/
def Surroundings.findShell (surroundings : Surroundings) : String :=
  match surroundings.ownPrograms with
  | none => foundShell
  | some directory =>
    let own := Local.Locations.join directory "sh"
    if (surroundings.files.read own).isOk then own else foundShell

end Rendezvous.Shell
