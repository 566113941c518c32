import Rendezvous.CommandLine.Arguments
import Rendezvous.CommandLine.Bootstrap
import Rendezvous.CommandLine.Help
import Rendezvous.Local.Locations
import Rendezvous.Report.Coverage
import Rendezvous.Shell.Delegation

/-! One run of the program: what it finds when it starts, how it ends, and what it has
written by then. -/
namespace Rendezvous.CommandLine

/-- What the program finds around it. -/
structure Site where
  homes : Local.Homes
  files : Local.Files
  environ : Local.Variables
  identity : Identity
  /-- A directory whose programs go before those of the system. -/
  ownPrograms : Option String := none
  /-- The shell that was found. -/
  shell : Option String

/-- What a run has written. -/
structure Trace where
  output : Report.Sink := {}
  files : Local.Files

inductive Ending where
  | done
  | failed (error : Error)
  | misused (fault : Misuse)
  /-- The log file could not be opened. -/
  | crashed
  deriving DecidableEq, Repr

def Ending.exitCode : Ending → UInt8
  | .done => 0
  | .failed _ => 1
  | .misused _ => 2
  | .crashed => 101

/-- What is said on standard error about an ending. -/
def Ending.message : Ending → String
  | .done => ""
  | .failed error => "Error: " ++ error.message ++ "\n"
  | .misused fault => "error: " ++ fault.message ++ "\n"
  | .crashed => "initializing the log file failed\n"

structure Outcome where
  ending : Ending
  trace : Trace

def Outcome.output (outcome : Outcome) : String := outcome.trace.output.written

namespace Trace

def print (trace : Trace) (text : String) : Trace :=
  { trace with output := (trace.output.write text).2 }

end Trace

namespace Site

def machine (site : Site) (config : Config) : Local.Machine :=
  ⟨config, site.environ, site.identity, site.shell⟩

/-- Gives a command to the shell. -/
def delegate (site : Site) (command : String) (timeoutUnits : UInt32) (files : Local.Files) :
    Reply × Local.Files :=
  match Shell.delegate ⟨files, site.ownPrograms, site.environ⟩
      (site.shell.getD Shell.foundShell) command timeoutUnits with
  | .error error => (.failed error, files)
  | .ok (result, files) => (.returned result, files)

def runBootstrap (site : Site) (config : Config) (family : Family) (trace : Trace) :
    Except Error Unit × Trace :=
  let (summary, session) :=
    bootstrap (site.machine config) (promptly site.delegate) family ⟨trace.files, []⟩
  let trace := { trace with files := session.outside.commands.world }
  match summary with
  | .error error => (.error error, trace)
  | .ok summary => (.ok (), trace.print summary.text)

/-- The token of this process, from what the host says of the application. -/
def token (site : Site) (config : Config) : Except Error Token :=
  match (site.machine config).resolver.appContext with
  | none => .error (.capabilityUnavailable WellKnown.appContext.name)
  | some context => .ok (.build context site.identity)

/-- The value in a file of coverage. -/
def readCoverage (files : Local.Files) (path : String) : Except Error Json.Value := do
  match Json.Value.ofText (← files.readText path) with
  | .error fault => throw (.json fault)
  | .ok value => return value

def noChunkLength : Error := .config "--chunk-len must be greater than zero"

/-- What is reported, and in chunks of which length. -/
def coverageReport (config : Config) (input : Option String) (chunkLength : Option UInt64)
    (files : Local.Files) : Except Error (Option Json.Value × UInt64) := do
  let payload ← input.mapM (readCoverage files)
  let length := chunkLength.getD config.coverage.chunkLength
  if length = 0 then throw noChunkLength
  return (payload, length)

def runCommand (site : Site) (config : Config) (command : Command) (trace : Trace) :
    Except Error Unit × Trace :=
  match command with
  | .bootstrap family => site.runBootstrap config family trace
  | .token =>
    match site.token config with
    | .error error => (.error error, trace)
    | .ok token => (.ok (), trace.print (token.text ++ "\n"))
  | .coverage input chunkLength =>
    match coverageReport config input chunkLength trace.files with
    | .error error => (.error error, trace)
    | .ok (payload, length) =>
      let (count, output) := Report.Coverage.emit payload length trace.output
      (count.map fun _ => (), { trace with output })
  | .mockList path =>
    match Local.loadMockList trace.files path with
    | .error error => (.error error, trace)
    | .ok mocks => (.ok (), trace.print (Json.spread mocks ++ "\n"))

/-- Opens the log file, unless its directory cannot be made: then there is none. -/
def openLog (site : Site) : Except Local.PathFault Local.Files :=
  match Local.ensureLogDirectory site.homes site.files with
  | .error _ => .ok site.files
  | .ok files => files.openForAppending (Local.Locations.logFile site.homes)

/-- The configuration in force: from the file that was named, or the user's own. -/
def config (site : Site) (named : Option String) (files : Local.Files) : Except Error Config :=
  match named with
  | some path => Local.loadConfigFrom files path
  | none => Local.loadConfig site.homes files

def carryOut (site : Site) (invocation : Invocation) : Outcome :=
  match (if invocation.logFile then site.openLog else .ok site.files) with
  | .error _ => ⟨.crashed, { files := site.files }⟩
  | .ok files =>
    match site.config invocation.config files with
    | .error error => ⟨.failed error, { files }⟩
    | .ok config =>
      match site.runCommand config invocation.command { files } with
      | (.ok (), trace) => ⟨.done, trace⟩
      | (.error error, trace) => ⟨.failed error, trace⟩

/-- Runs the program with its arguments. -/
def run (site : Site) (arguments : List String) : Outcome :=
  let start : Trace := { files := site.files }
  match Invocation.ofArguments arguments with
  | .ok invocation => site.carryOut invocation
  | .error (.page page) => ⟨.done, start.print page.text⟩
  | .error .version => ⟨.done, start.print versionText⟩
  | .error (.misuse fault) => ⟨.misused fault, start⟩

end Site
end Rendezvous.CommandLine
